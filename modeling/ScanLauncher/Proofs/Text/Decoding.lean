import ScanLauncher.Proofs.Text.Bytes

namespace ScanLauncher

namespace Utf8

/-- Whether a byte sequence is UTF-8. -/
def isValid (bytes : List UInt8) : Bool := (decode? bytes).isSome

theorem toNat_ofNat_of_lt {m : Nat} (h : m < 0xD800) : (Char.ofNat m).toNat = m := by
  have hvalid : m.isValidChar := .inl h
  rw [Char.ofNat, dif_pos hvalid]
  rfl

theorem toNat_ofNat_of_le {m : Nat} (hlow : 0xE000 ≤ m) (hhigh : m < 0x110000) :
    (Char.ofNat m).toNat = m := by
  have hvalid : m.isValidChar := .inr ⟨hlow, hhigh⟩
  rw [Char.ofNat, dif_pos hvalid]
  rfl

/-- The bounds on a second byte, which are narrower behind the least and the greatest first byte. -/
theorem second_bounds {lead least most second final b : UInt8} (hsecond : 0x80 ≤ second)
    (hfinal : final ≤ 0xBF)
    (h : (decide ((if lead == least then second else 0x80) ≤ b) &&
      decide (b ≤ if lead == most then final else 0xBF)) = true) :
    (0x80 ≤ b.toNat ∧ b.toNat ≤ 0xBF) ∧ (lead.toNat = least.toNat → second.toNat ≤ b.toNat) ∧
      (lead.toNat = most.toNat → b.toNat ≤ final.toNat) := by
  simp only [Bool.and_eq_true, decide_eq_true_eq, beq_iff_eq] at h
  obtain ⟨hlow, hhigh⟩ := h
  refine ⟨⟨?_, ?_⟩, fun hleast => ?_, fun hmost => ?_⟩
  · refine (UInt8.le_iff_toNat_le (a := 0x80)).mp (UInt8.le_trans ?_ hlow)
    split
    · exact hsecond
    · exact UInt8.le_refl _
  · refine (UInt8.le_iff_toNat_le (b := 0xBF)).mp (UInt8.le_trans hhigh ?_)
    split
    · exact hfinal
    · exact UInt8.le_refl _
  · rw [if_pos (UInt8.toNat_inj.mp hleast)] at hlow
    exact UInt8.le_iff_toNat_le.mp hlow
  · rw [if_pos (UInt8.toNat_inj.mp hmost)] at hhigh
    exact UInt8.le_iff_toNat_le.mp hhigh

/-! A character of two, three or four bytes is written as those bytes. -/
section Written

variable {lead b c d : UInt8}

theorem tailBits_eq (b : UInt8) : tailBits b = b.toNat - 0x80 := rfl

theorem isTail_iff (b : UInt8) : isTail b = true ↔ 0x80 ≤ b.toNat ∧ b.toNat ≤ 0xBF := by
  simp [isTail, UInt8.le_iff_toNat_le]

theorem toUInt8_eq {m : Nat} (hm : m = b.toNat) : m.toUInt8 = b := by
  rw [hm, Nat.toUInt8, UInt8.ofNat_toNat]

private theorem encodeChar_two (hlead : 0xC2 ≤ lead.toNat ∧ lead.toNat ≤ 0xDF)
    (hb : 0x80 ≤ b.toNat ∧ b.toNat ≤ 0xBF) :
    encodeChar (Char.ofNat ((lead.toNat - 0xC0) * 64 + tailBits b)) = [lead, b] := by
  rw [tailBits_eq]
  have hvalue := @toNat_ofNat_of_lt ((lead.toNat - 0xC0) * 64 + (b.toNat - 0x80)) (by omega)
  simp only [encodeChar, hvalue]
  rw [if_neg (by omega), if_pos (by omega), toUInt8_eq (b := lead) (by omega),
    toUInt8_eq (b := b) (by omega)]

private theorem encodeChar_three (hlead : 0xE0 ≤ lead.toNat ∧ lead.toNat ≤ 0xEF)
    (hb : 0x80 ≤ b.toNat ∧ b.toNat ≤ 0xBF) (hleast : lead.toNat = 0xE0 → 0xA0 ≤ b.toNat)
    (hmost : lead.toNat = 0xED → b.toNat ≤ 0x9F) (hc : 0x80 ≤ c.toNat ∧ c.toNat ≤ 0xBF) :
    encodeChar (Char.ofNat (((lead.toNat - 0xE0) * 64 + tailBits b) * 64 + tailBits c)) =
      [lead, b, c] := by
  simp only [tailBits_eq]
  generalize hvalue : ((lead.toNat - 0xE0) * 64 + (b.toNat - 0x80)) * 64 + (c.toNat - 0x80) = m
  -- The bounds on the second byte keep the value away from the surrogates.
  have hm : (Char.ofNat m).toNat = m := by
    rcases Nat.lt_or_ge m 0xD800 with hlow | hhigh
    · exact toNat_ofNat_of_lt hlow
    · exact toNat_ofNat_of_le (by omega) (by omega)
  simp only [encodeChar, hm]
  rw [if_neg (by omega), if_neg (by omega), if_pos (by omega), toUInt8_eq (b := lead) (by omega),
    toUInt8_eq (b := b) (by omega), toUInt8_eq (b := c) (by omega)]

private theorem encodeChar_four (hlead : 0xF0 ≤ lead.toNat ∧ lead.toNat ≤ 0xF4)
    (hb : 0x80 ≤ b.toNat ∧ b.toNat ≤ 0xBF) (hleast : lead.toNat = 0xF0 → 0x90 ≤ b.toNat)
    (hmost : lead.toNat = 0xF4 → b.toNat ≤ 0x8F) (hc : 0x80 ≤ c.toNat ∧ c.toNat ≤ 0xBF)
    (hd : 0x80 ≤ d.toNat ∧ d.toNat ≤ 0xBF) :
    encodeChar (Char.ofNat
      ((((lead.toNat - 0xF0) * 64 + tailBits b) * 64 + tailBits c) * 64 + tailBits d)) =
      [lead, b, c, d] := by
  simp only [tailBits_eq]
  generalize hvalue : (((lead.toNat - 0xF0) * 64 + (b.toNat - 0x80)) * 64 + (c.toNat - 0x80)) * 64 +
    (d.toNat - 0x80) = m
  have hm : (Char.ofNat m).toNat = m := toNat_ofNat_of_le (by omega) (by omega)
  simp only [encodeChar, hm]
  rw [if_neg (by omega), if_neg (by omega), if_neg (by omega), toUInt8_eq (b := lead) (by omega),
    toUInt8_eq (b := b) (by omega), toUInt8_eq (b := c) (by omega), toUInt8_eq (b := d) (by omega)]

end Written

private theorem encodeChar_of_head? {lead : UInt8} {rest : List UInt8} {c : Char} {n : Nat}
    (h : head? lead rest = some (c, n)) : encodeChar c = lead :: rest.take n := by
  have hbounds {low high : UInt8} (hlead : (decide (low ≤ lead) && decide (lead ≤ high)) = true) :
      low.toNat ≤ lead.toNat ∧ lead.toNat ≤ high.toNat := by
    simpa [UInt8.le_iff_toNat_le] using hlead
  unfold head? at h
  split at h
  · rename_i hlead
    obtain ⟨rfl, rfl⟩ := Prod.mk.inj (Option.some.inj h)
    have hlow : lead.toNat < 0x80 := UInt8.lt_iff_toNat_lt.mp hlead
    have hvalue := toNat_ofNat_of_lt (Nat.lt_trans hlow (by decide : 0x80 < 0xD800))
    simp only [encodeChar, hvalue, hlow, if_true, toUInt8_eq rfl, List.take_zero]
  split at h
  · rename_i hlead
    rcases rest with _ | ⟨b, rest⟩
    · cases h
    · simp only [Option.ite_none_right_eq_some, Option.some.injEq, Prod.mk.injEq] at h
      obtain ⟨hb, rfl, rfl⟩ := h
      exact encodeChar_two (hbounds hlead) ((isTail_iff b).mp hb)
  split at h
  · rename_i hlead
    rcases rest with _ | ⟨b, _ | ⟨b', rest⟩⟩
    · cases h
    · cases h
    · simp only [Option.ite_none_right_eq_some, Option.some.injEq, Prod.mk.injEq] at h
      obtain ⟨hform, rfl, rfl⟩ := h
      obtain ⟨hsecond, hb'⟩ := Bool.and_eq_true_iff.mp hform
      obtain ⟨hb, hleast, hmost⟩ := second_bounds (by decide) (by decide) hsecond
      exact encodeChar_three (hbounds hlead) hb hleast hmost ((isTail_iff b').mp hb')
  split at h
  · rename_i hlead
    rcases rest with _ | ⟨b, _ | ⟨b', _ | ⟨b'', rest⟩⟩⟩
    · cases h
    · cases h
    · cases h
    · simp only [Option.ite_none_right_eq_some, Option.some.injEq, Prod.mk.injEq] at h
      obtain ⟨hform, rfl, rfl⟩ := h
      obtain ⟨hform, hb''⟩ := Bool.and_eq_true_iff.mp hform
      obtain ⟨hsecond, hb'⟩ := Bool.and_eq_true_iff.mp hform
      obtain ⟨hb, hleast, hmost⟩ := second_bounds (by decide) (by decide) hsecond
      exact encodeChar_four (hbounds hlead) hb hleast hmost ((isTail_iff b').mp hb')
        ((isTail_iff b'').mp hb'')
  · cases h

private theorem fold_map {α β : Type} (f : α → β) (ok : Char → α) (stray : UInt8 → α) (bytes : List UInt8) :
    (fold ok stray bytes).map f = fold (fun c => f (ok c)) (fun b => f (stray b)) bytes := by
  fun_induction fold ok stray bytes with
  | case1 => simp [fold]
  | case2 lead rest c n hhead ih => rw [List.map_cons, ih, fold, hhead]
  | case3 lead rest hhead ih => rw [List.map_cons, ih, fold, hhead]

private theorem encode_of_decode? {bytes : List UInt8} {cs : List Char} (h : decode? bytes = some cs) :
    encode cs = bytes := by
  unfold decode? at h
  fun_induction fold some (fun _ : UInt8 => (none : Option Char)) bytes generalizing cs with
  | case1 =>
    obtain rfl := Option.some.inj h
    rfl
  | case2 lead rest c n hhead ih =>
    rw [List.mapM_cons] at h
    cases hrest : (fold some (fun _ : UInt8 => (none : Option Char)) (rest.drop n)).mapM id with
    | none => simp [hrest] at h
    | some cs' =>
      obtain rfl : c :: cs' = cs := by simpa [hrest] using h
      rw [encode, List.flatMap_cons, ← encode, ih hrest, encodeChar_of_head? hhead,
        List.cons_append, List.take_append_drop]
  | case3 lead rest hhead ih =>
    rw [List.mapM_cons] at h
    cases h

end Utf8

namespace Text

theorem toChars?_ofBytes (bytes : List UInt8) : (ofBytes bytes).toChars? = Utf8.decode? bytes := by
  have hstray (b : UInt8) : (Glyph.ofStray b).toChar? = none := by
    obtain ⟨offset, hstray, _⟩ := Glyph.ofStray_eq b
    rw [hstray]
    rfl
  have hfold := Utf8.fold_map Glyph.toChar? Glyph.char Glyph.ofStray bytes
  simp only [hstray] at hfold
  have hmap : ((Utf8.fold Glyph.char Glyph.ofStray bytes).map Glyph.toChar?).mapM id =
      (Utf8.fold Glyph.char Glyph.ofStray bytes).mapM Glyph.toChar? := List.mapM_map
  rw [toChars?, ofBytes, Utf8.decode?, ← hmap, hfold]
  rfl

/-- The text of a name is written as the bytes of the name, if these are UTF-8, and else not at
all. -/
theorem toUtf8?_ofBytes (bytes : List UInt8) :
    (ofBytes bytes).toUtf8? = if Utf8.isValid bytes then some bytes else none := by
  rw [toUtf8?, toChars?_ofBytes, Utf8.isValid]
  cases hdecode : Utf8.decode? bytes with
  | none => rfl
  | some cs => simp [Utf8.encode_of_decode? hdecode]

end Text

end ScanLauncher

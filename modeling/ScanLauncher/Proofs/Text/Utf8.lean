import ScanLauncher.Text.Utf8

namespace ScanLauncher

namespace Utf8

/-- A character of more than one byte ends before an ASCII byte. -/
theorem head?_append_ascii (lead : UInt8) (xs ys : List UInt8) {b : UInt8} (hb : b < 0x80) :
    head? lead (xs ++ b :: ys) = head? lead xs := by
  have htail : isTail b = false := by simp [isTail, UInt8.not_le.mpr hb]
  have hlow (p : Prop) [Decidable p] (low : UInt8) (h : 0x80 ≤ low) :
      ¬ (if p then low else 0x80) ≤ b := by
    split
    · exact fun h' => UInt8.not_le.mpr hb (UInt8.le_trans h h')
    · exact UInt8.not_le.mpr hb
  unfold head?
  rcases xs with _ | ⟨x, _ | ⟨y, _ | ⟨z, rest⟩⟩⟩
  · rcases ys with _ | ⟨y, _ | ⟨z, ys⟩⟩ <;> simp [htail, hlow]
  · rcases ys with _ | ⟨z, ys⟩ <;> simp [htail]
  · simp [htail]
  · rfl

theorem eq_of_ofNat_eq {m : Nat} {c : Char} (hc : c ≠ '\x00') (h : Char.ofNat m = c) :
    m = c.toNat := by
  by_cases hm : m.isValidChar
  · rw [← h, Char.ofNat, dif_pos hm]
    rfl
  · rw [Char.ofNat, dif_neg hm] at h
    exact absurd h.symm hc

/-- The least first byte of a length has a least second byte of its own, which rules out over-long
forms. -/
theorem second_of_first {lead least second high b : UInt8} (hlead : least.toNat ≤ lead.toNat)
    (h : (decide ((if lead == least then second else 0x80) ≤ b) && decide (b ≤ high)) = true) :
    least.toNat < lead.toNat ∨ second.toNat ≤ b.toNat := by
  rcases Nat.eq_or_lt_of_le hlead with hfirst | hfirst
  · have hfirst : lead = least := UInt8.toNat_inj.mp hfirst.symm
    simp only [hfirst, beq_self_eq_true, if_true, Bool.and_eq_true, decide_eq_true_eq] at h
    exact .inr (UInt8.le_iff_toNat_le.mp h.1)
  · exact .inl hfirst

/-- An ASCII character is read from the one byte that it is. -/
theorem head?_eq_char {lead : UInt8} {rest : List UInt8} {c : Char} {n : Nat} (hc : c ≠ '\x00')
    (hascii : c.toNat < 0x80) (h : head? lead rest = some (c, n)) :
    lead.toNat = c.toNat ∧ n = 0 := by
  have hbits (b : UInt8) : tailBits b = b.toNat - 0x80 := rfl
  unfold head? at h
  split at h
  · simp only [Option.some.injEq, Prod.mk.injEq] at h
    exact ⟨eq_of_ofNat_eq hc h.1, h.2.symm⟩
  split at h
  · rename_i hlead
    simp only [Bool.and_eq_true, decide_eq_true_eq, UInt8.le_iff_toNat_le, UInt8.reduceToNat] at hlead
    rcases rest with _ | ⟨b, rest⟩
    · cases h
    · simp only [Option.ite_none_right_eq_some, Option.some.injEq, Prod.mk.injEq] at h
      have hvalue := eq_of_ofNat_eq hc h.2.1
      omega
  split at h
  · rename_i hlead
    simp only [Bool.and_eq_true, decide_eq_true_eq, UInt8.le_iff_toNat_le] at hlead
    rcases rest with _ | ⟨b, _ | ⟨b', rest⟩⟩
    · cases h
    · cases h
    · simp only [Option.ite_none_right_eq_some, Option.some.injEq, Prod.mk.injEq] at h
      have hvalue := eq_of_ofNat_eq hc h.2.1
      have hsecond := second_of_first hlead.1 (Bool.and_eq_true_iff.mp h.1).1
      have hb := hbits b
      simp only [UInt8.reduceToNat] at hsecond
      omega
  split at h
  · rename_i hlead
    simp only [Bool.and_eq_true, decide_eq_true_eq, UInt8.le_iff_toNat_le] at hlead
    rcases rest with _ | ⟨b, _ | ⟨b', _ | ⟨b'', rest⟩⟩⟩
    · cases h
    · cases h
    · cases h
    · simp only [Option.ite_none_right_eq_some, Option.some.injEq, Prod.mk.injEq] at h
      have hvalue := eq_of_ofNat_eq hc h.2.1
      have hform := (Bool.and_eq_true_iff.mp h.1).1
      have hsecond := second_of_first hlead.1 (Bool.and_eq_true_iff.mp hform).1
      have hb := hbits b
      simp only [UInt8.reduceToNat] at hsecond
      omega
  · cases h

private theorem length_of_head? {lead : UInt8} {rest : List UInt8} {c : Char} {n : Nat}
    (h : head? lead rest = some (c, n)) : n ≤ rest.length := by
  unfold head? at h
  rcases rest with _ | ⟨b, _ | ⟨b', _ | ⟨b'', rest⟩⟩⟩ <;> grind

theorem fold_append_ascii {α : Type} (ok : Char → α) (stray : UInt8 → α) (xs ys : List UInt8)
    {b : UInt8} (hb : b < 0x80) :
    fold ok stray (xs ++ b :: ys) =
      fold ok stray xs ++ ok (Char.ofNat b.toNat) :: fold ok stray ys := by
  fun_induction fold ok stray xs with
  | case1 => simp [fold, head?, hb]
  | case2 lead rest c n hhead ih =>
    rw [List.cons_append, fold, head?_append_ascii _ _ _ hb, hhead]
    simp only [List.drop_append_of_le_length (length_of_head? hhead), ih, List.cons_append]
  | case3 lead rest hhead ih =>
    rw [List.cons_append, fold, head?_append_ascii _ _ _ hb, hhead]
    simp only [ih, List.cons_append]

theorem toNat_lt_of_char (c : Char) : c.toNat < 0x110000 := by
  rcases c.valid with hlow | hhigh
  · exact Nat.lt_trans hlow (by decide)
  · exact hhigh.2

/-- An ASCII character is one byte, and no byte of another character is an ASCII byte. -/
theorem encodeChar_cases (c : Char) :
    c.toNat < 0x80 ∧ encodeChar c = [c.toNat.toUInt8] ∨
      encodeChar c ≠ [] ∧ ∀ b ∈ encodeChar c, ¬ b < 0x80 := by
  have hc : c.toNat < 0x110000 := toNat_lt_of_char c
  have hbyte (m : Nat) (hlow : 0x80 ≤ m) (hhigh : m < 0x100) : ¬ m.toUInt8 < 0x80 := by
    rw [UInt8.lt_iff_toNat_lt, Nat.toUInt8, UInt8.toNat_ofNat_of_lt' hhigh]
    exact Nat.not_lt.mpr hlow
  unfold encodeChar
  simp only
  split
  · exact .inl ⟨‹_›, rfl⟩
  refine .inr ?_
  split
  · refine ⟨nofun, ?_⟩
    simp only [List.forall_mem_cons]
    exact ⟨hbyte _ (by omega) (by omega), hbyte _ (by omega) (by omega), nofun⟩
  split
  · refine ⟨nofun, ?_⟩
    simp only [List.forall_mem_cons]
    exact ⟨hbyte _ (by omega) (by omega), hbyte _ (by omega) (by omega),
      hbyte _ (by omega) (by omega), nofun⟩
  · refine ⟨nofun, ?_⟩
    simp only [List.forall_mem_cons]
    exact ⟨hbyte _ (by omega) (by omega), hbyte _ (by omega) (by omega),
      hbyte _ (by omega) (by omega), hbyte _ (by omega) (by omega), nofun⟩

private theorem encodeChar_eq (c : Char) : encodeChar c = String.utf8EncodeChar c := by
  have hlast := toNat_lt_of_char c
  have hbound (m : Nat) : (c.val.toNat ≤ m) = (c.toNat < m + 1) := propext Nat.lt_succ_iff.symm
  unfold encodeChar String.utf8EncodeChar
  simp only [hbound, Nat.reduceAdd, Nat.toUInt8]
  split
  · rfl
  split
  · have hlead : 0xC0 + c.toNat / 64 = c.toNat / 64 % 32 + 192 := by omega
    rw [hlead, Nat.add_comm 0x80]
    rfl
  split
  · have hlead : 0xE0 + c.toNat / 4096 = c.toNat / 4096 % 16 + 224 := by omega
    rw [hlead, Nat.add_comm 0x80, Nat.add_comm 0x80]
    rfl
  · have hlead : 0xF0 + c.toNat / 262144 = c.toNat / 262144 % 8 + 240 := by omega
    rw [hlead, Nat.add_comm 0x80, Nat.add_comm 0x80, Nat.add_comm 0x80]
    rfl

theorem encode_injective {cs cs' : List Char} (h : encode cs = encode cs') : cs = cs' := by
  have hbytes (cs : List Char) : cs.utf8Encode = (encode cs).toByteArray := by
    rw [List.utf8Encode, encode, funext encodeChar_eq]
  have hdecode : cs.utf8Encode.utf8Decode? = cs'.utf8Encode.utf8Decode? := by
    rw [hbytes, hbytes, h]
  rw [List.utf8Decode?_utf8Encode, List.utf8Decode?_utf8Encode] at hdecode
  simpa using hdecode

theorem encode_append (cs cs' : List Char) : encode (cs ++ cs') = encode cs ++ encode cs' :=
  List.flatMap_append

/-- The ASCII bytes of some characters are the ASCII characters among them. -/
theorem mem_of_mem_encode {cs : List Char} {b : UInt8} (hb : b ∈ encode cs) (hascii : b < 0x80) :
    Char.ofNat b.toNat ∈ cs := by
  obtain ⟨c, hc, hbyte⟩ := List.mem_flatMap.mp hb
  rcases encodeChar_cases c with ⟨hlow, hbytes⟩ | ⟨_, hnone⟩
  · rw [hbytes, List.mem_singleton] at hbyte
    have hnat : c.toNat.toUInt8.toNat = c.toNat :=
      UInt8.toNat_ofNat_of_lt' (Nat.lt_trans hlow (by decide))
    rw [hbyte, hnat, Char.ofNat_toNat]
    exact hc
  · exact absurd hascii (hnone b hbyte)

/-- An ASCII byte at the end is the character at the end. -/
theorem getLast?_of_encode {cs : List Char} {b : UInt8} (hb : (encode cs).getLast? = some b)
    (hascii : b < 0x80) : cs.getLast? = some (Char.ofNat b.toNat) := by
  rcases List.eq_nil_or_concat cs with rfl | ⟨front, last, rfl⟩
  · cases hb
  rw [List.concat_eq_append, encode_append] at hb
  have hmem : b ∈ encode [last] := by
    have hne : encode [last] ≠ [] := by
      rcases encodeChar_cases last with ⟨_, hbytes⟩ | ⟨hbytes, _⟩ <;> simp [encode, hbytes]
    rw [List.getLast?_append, List.getLast?_eq_some_getLast hne] at hb
    exact Option.some.inj hb ▸ List.getLast_mem hne
  have hlast := List.mem_singleton.mp (mem_of_mem_encode hmem hascii)
  simp [hlast]

end Utf8

end ScanLauncher

import ScanLauncher.Proofs.Text.Utf8
import ScanLauncher.Text.Basic

namespace ScanLauncher

namespace Glyph

theorem ofStray_eq (b : UInt8) :
    ∃ offset, ofStray b = .surrogate offset ∧ offset.val = 0x400 + b.toNat := by
  have hb := b.toNat_lt
  unfold ofStray ofCode
  rw [dif_pos (by omega)]
  exact ⟨_, rfl, by simp only; omega⟩

/-- A glyph whose bytes hold an ASCII byte is that ASCII character. -/
theorem toBytes?_cases {g : Glyph} {bytes : List UInt8} (h : g.toBytes? = some bytes) :
    (∃ b, b < 0x80 ∧ bytes = [b] ∧ g = .char (Char.ofNat b.toNat)) ∨
      bytes ≠ [] ∧ ∀ b ∈ bytes, ¬ b < 0x80 := by
  cases g with
  | char c =>
    obtain rfl := Option.some.inj h
    rcases Utf8.encodeChar_cases c with ⟨hc, hbytes⟩ | hbytes
    · have hnat : c.toNat.toUInt8.toNat = c.toNat := by
        rw [Nat.toUInt8, UInt8.toNat_ofNat_of_lt' (Nat.lt_trans hc (by decide))]
      refine .inl ⟨c.toNat.toUInt8, ?_, hbytes, ?_⟩
      · rw [UInt8.lt_iff_toNat_lt, hnat]
        exact hc
      · rw [hnat, Char.ofNat_toNat]
    · exact .inr hbytes
  | surrogate offset =>
    simp only [toBytes?, strayByte?] at h
    split at h
    · rename_i hrange
      simp only [Bool.and_eq_true, decide_eq_true_eq] at hrange
      obtain rfl := Option.some.inj h
      refine .inr ⟨List.cons_ne_nil _ _, fun b hb => ?_⟩
      rw [List.mem_singleton.mp hb, UInt8.lt_iff_toNat_lt, Nat.toUInt8,
        UInt8.toNat_ofNat_of_lt' (by show _ < 256; omega)]
      show ¬ _ < 128
      omega
    · cases h

end Glyph

namespace Text

@[simp] theorem glyphs_append (a b : Text) : (a ++ b).glyphs = a.glyphs ++ b.glyphs := rfl

theorem toBytes?_append {a b : Text} {bytes : List UInt8} :
    (a ++ b).toBytes? = some bytes ↔
      ∃ xs ys, a.toBytes? = some xs ∧ b.toBytes? = some ys ∧ bytes = xs ++ ys := by
  unfold toBytes?
  rw [glyphs_append, List.mapM_append]
  cases a.glyphs.mapM Glyph.toBytes? with
  | none => simp
  | some xs =>
    cases b.glyphs.mapM Glyph.toBytes? with
    | none => simp
    | some ys => simp [eq_comm]

theorem toBytes?_cons {g : Glyph} {gs : List Glyph} {bytes : List UInt8} :
    toBytes? ⟨g :: gs⟩ = some bytes ↔
      ∃ xs ys, g.toBytes? = some xs ∧ toBytes? ⟨gs⟩ = some ys ∧ bytes = xs ++ ys := by
  have hsingle (xs : List UInt8) : toBytes? ⟨[g]⟩ = some xs ↔ g.toBytes? = some xs := by
    cases hg : g.toBytes? <;> simp [toBytes?, hg]
  simp only [← hsingle]
  exact toBytes?_append (a := ⟨[g]⟩) (b := ⟨gs⟩)

/-- A slash among the bytes stays a slash, and divides the text where it divides the bytes. -/
theorem ofBytes_append_slash (xs ys : List UInt8) :
    ofBytes (xs ++ 0x2F :: ys) = ofBytes xs ++ "/" ++ ofBytes ys := by
  have hfold := Utf8.fold_append_ascii Glyph.char Glyph.ofStray xs ys (b := 0x2F) (by decide)
  have hglyphs : (ofBytes (xs ++ 0x2F :: ys)).glyphs =
      (ofBytes xs ++ "/" ++ ofBytes ys).glyphs := by
    simp only [ofBytes, hfold, glyphs_append, List.append_assoc]
    rfl
  exact congrArg Text.mk hglyphs

/-- What was read from bytes has bytes. -/
theorem exists_toBytes?_ofBytes (bytes : List UInt8) : ∃ out, (ofBytes bytes).toBytes? = some out := by
  unfold ofBytes
  fun_induction Utf8.fold Glyph.char Glyph.ofStray bytes with
  | case1 => exact ⟨[], rfl⟩
  | case2 lead rest c n _ ih =>
    obtain ⟨out, hout⟩ := ih
    exact ⟨_, toBytes?_cons.mpr ⟨_, out, rfl, hout, rfl⟩⟩
  | case3 lead rest hhead ih =>
    obtain ⟨out, hout⟩ := ih
    have hlead : ¬ lead < 0x80 := by
      intro hascii
      simp [Utf8.head?, hascii] at hhead
    have hstray : (Glyph.ofStray lead).toBytes? ≠ none := by
      obtain ⟨offset, hstray, hoffset⟩ := Glyph.ofStray_eq lead
      have hlow : 0x80 ≤ lead.toNat := Nat.not_lt.mp fun h => hlead (UInt8.lt_iff_toNat_lt.mpr h)
      have hhigh := lead.toNat_lt
      have hrange : 0x480 ≤ offset.val ∧ offset.val < 0x500 := by omega
      simp [hstray, Glyph.toBytes?, Glyph.strayByte?, hrange]
    obtain ⟨xs, hxs⟩ := Option.ne_none_iff_exists'.mp hstray
    exact ⟨_, toBytes?_cons.mpr ⟨xs, out, hxs, hout, rfl⟩⟩

/-- A character of a text that was read from bytes is one of the bytes, if it is an ASCII one. -/
theorem mem_of_mem_ofBytes {c : Char} (hc : c ≠ '\x00') (hascii : c.toNat < 0x80)
    {bytes : List UInt8} (h : Glyph.char c ∈ (ofBytes bytes).glyphs) :
    ∃ b ∈ bytes, b.toNat = c.toNat := by
  unfold ofBytes at h
  simp only at h
  fun_induction Utf8.fold Glyph.char Glyph.ofStray bytes with
  | case1 => cases h
  | case2 lead rest c' n hhead ih =>
    rcases List.mem_cons.mp h with hfirst | hrest
    · obtain rfl := Glyph.char.inj hfirst
      exact ⟨lead, .head rest, (Utf8.head?_eq_char hc hascii hhead).1⟩
    · obtain ⟨b, hb, hvalue⟩ := ih hrest
      exact ⟨b, .tail lead (List.mem_of_mem_drop hb), hvalue⟩
  | case3 lead rest hhead ih =>
    rcases List.mem_cons.mp h with hfirst | hrest
    · obtain ⟨offset, hstray, _⟩ := Glyph.ofStray_eq lead
      rw [hstray] at hfirst
      cases hfirst
    · obtain ⟨b, hb, hvalue⟩ := ih hrest
      exact ⟨b, .tail lead hb, hvalue⟩

/-- The ASCII bytes of a text are its ASCII characters. -/
theorem mem_of_mem_toBytes? {t : Text} {bytes : List UInt8} (ht : t.toBytes? = some bytes)
    {b : UInt8} (hb : b ∈ bytes) (hascii : b < 0x80) : Glyph.char (Char.ofNat b.toNat) ∈ t.glyphs := by
  obtain ⟨gs⟩ := t
  induction gs generalizing bytes with
  | nil =>
    obtain rfl := Option.some.inj ht
    cases hb
  | cons g gs ih =>
    obtain ⟨xs, ys, hg, hgs, rfl⟩ := toBytes?_cons.mp ht
    rcases List.mem_append.mp hb with hfirst | hrest
    · rcases Glyph.toBytes?_cases hg with ⟨b', _, rfl, rfl⟩ | ⟨_, hnone⟩
      · rw [List.mem_singleton.mp hfirst]
        exact .head gs
      · exact absurd hascii (hnone b hfirst)
    · exact .tail g (ih hrest hgs)

private theorem bytes_of_fold_eq {cs : List Char} (hcs : ∀ c ∈ cs, c ≠ '\x00' ∧ c.toNat < 0x80)
    {bytes : List UInt8} (h : Utf8.fold Glyph.char Glyph.ofStray bytes = cs.map .char) :
    bytes.map UInt8.toNat = cs.map Char.toNat := by
  induction cs generalizing bytes with
  | nil =>
    cases bytes with
    | nil => rfl
    | cons lead rest =>
      rw [Utf8.fold] at h
      split at h <;> cases h
  | cons c cs ih =>
    cases bytes with
    | nil => simp [Utf8.fold] at h
    | cons lead rest =>
      rw [Utf8.fold] at h
      cases hhead : Utf8.head? lead rest with
      | none =>
        obtain ⟨offset, hstray, _⟩ := Glyph.ofStray_eq lead
        simp [hhead, hstray] at h
      | some head =>
        obtain ⟨c', n⟩ := head
        simp only [hhead, List.map_cons, List.cons.injEq, Glyph.char.injEq] at h
        obtain ⟨rfl, hrest⟩ := h
        obtain ⟨hc, hascii⟩ := hcs c' (.head cs)
        obtain ⟨hlead, rfl⟩ := Utf8.head?_eq_char hc hascii hhead
        rw [List.drop_zero] at hrest
        rw [List.map_cons, hlead, ih (fun c hc => hcs c (.tail c' hc)) hrest, List.map_cons]

private theorem glyphs_of_bytes {t : Text} {bytes : List UInt8} (ht : t.toBytes? = some bytes)
    (hascii : ∀ b ∈ bytes, b < 0x80) : t.glyphs = bytes.map fun b => .char (Char.ofNat b.toNat) := by
  obtain ⟨gs⟩ := t
  induction gs generalizing bytes with
  | nil =>
    obtain rfl := Option.some.inj ht
    rfl
  | cons g gs ih =>
    obtain ⟨xs, ys, hg, hgs, rfl⟩ := toBytes?_cons.mp ht
    rcases Glyph.toBytes?_cases hg with ⟨b, _, rfl, rfl⟩ | ⟨hnonempty, hnone⟩
    · have hrest := ih (fun b hb => hascii b (List.mem_append_right _ hb)) hgs
      simp only at hrest
      simp [hrest]
    · obtain ⟨b, hb⟩ := List.exists_mem_of_ne_nil xs hnonempty
      exact absurd (hascii b (List.mem_append_left ys hb)) (hnone b hb)

/-- A text that is read again as ASCII characters was these characters before. -/
theorem eq_of_ofBytes_eq (cs : List Char) (hcs : ∀ c ∈ cs, c ≠ '\x00' ∧ c.toNat < 0x80)
    {t : Text} {bytes : List UInt8} (ht : t.toBytes? = some bytes) (h : ofBytes bytes = ofChars cs) :
    t = ofChars cs := by
  have hbytes := bytes_of_fold_eq hcs (congrArg Text.glyphs h)
  have hglyphs : t.glyphs = bytes.map fun b => .char (Char.ofNat b.toNat) := by
    refine glyphs_of_bytes ht fun b hb => ?_
    have hmem : b.toNat ∈ cs.map Char.toNat := hbytes ▸ List.mem_map_of_mem hb
    obtain ⟨c, hc, hvalue⟩ := List.mem_map.mp hmem
    rw [UInt8.lt_iff_toNat_lt, ← hvalue]
    exact (hcs c hc).2
  have hsame : t.glyphs = cs.map Glyph.char := by
    calc t.glyphs = (bytes.map UInt8.toNat).map fun n => Glyph.char (Char.ofNat n) := by
          rw [hglyphs, List.map_map]; rfl
      _ = cs.map Glyph.char := by
          rw [hbytes, List.map_map]
          exact List.map_congr_left fun c _ => congrArg Glyph.char (Char.ofNat_toNat c)
  exact congrArg Text.mk hsame

private theorem eq_ofChars_of_toChars? {t : Text} {cs : List Char} (h : t.toChars? = some cs) :
    t = ofChars cs := by
  obtain ⟨gs⟩ := t
  refine congrArg Text.mk ?_
  simp only [toChars?] at h
  induction gs generalizing cs with
  | nil =>
    obtain rfl := Option.some.inj h
    rfl
  | cons g gs ih =>
    rw [List.mapM_cons] at h
    cases g with
    | surrogate => cases h
    | char c =>
      cases hrest : gs.mapM Glyph.toChar? with
      | none => simp [Glyph.toChar?, hrest] at h
      | some rest =>
        obtain rfl : c :: rest = cs := by simpa [Glyph.toChar?, hrest] using h
        rw [ih hrest, List.map_cons]

/-- A text that has bytes without surrogates is one of characters. -/
theorem exists_chars {t : Text} {bytes : List UInt8} (h : t.toUtf8? = some bytes) :
    ∃ cs, t = ofChars cs ∧ bytes = Utf8.encode cs := by
  obtain ⟨cs, hcs, rfl⟩ := Option.map_eq_some_iff.mp h
  exact ⟨cs, eq_ofChars_of_toChars? hcs, rfl⟩

theorem toUtf8?_append {a b : Text} {bytes : List UInt8} :
    (a ++ b).toUtf8? = some bytes ↔
      ∃ xs ys, a.toUtf8? = some xs ∧ b.toUtf8? = some ys ∧ bytes = xs ++ ys := by
  simp only [toUtf8?, toChars?, glyphs_append, List.mapM_append]
  cases a.glyphs.mapM Glyph.toChar? with
  | none => simp
  | some xs =>
    cases b.glyphs.mapM Glyph.toChar? with
    | none => simp
    | some ys => simp [Utf8.encode_append, eq_comm]

/-- Two texts with the same bytes are the same. -/
theorem eq_of_toUtf8? {a b : Text} {bytes : List UInt8} (ha : a.toUtf8? = some bytes)
    (hb : b.toUtf8? = some bytes) : a = b := by
  obtain ⟨cs, rfl, hcs⟩ := exists_chars ha
  obtain ⟨cs', rfl, hcs'⟩ := exists_chars hb
  rw [Utf8.encode_injective (hcs.symm.trans hcs')]

end Text

end ScanLauncher

import Mathlib.Data.List.Basic
import ScanLauncher.Text.Basic

namespace ScanLauncher

private theorem Glyph.code_injective : Function.Injective Glyph.code := by
  intro a b h
  -- No character has the code point of a surrogate.
  have hchar (c : Char) (offset : Fin 2048) : c.toNat ≠ 0xD800 + offset.val := by
    have hvalid := c.valid
    simp only [UInt32.isValidChar, Nat.isValidChar] at hvalid
    simp only [Char.toNat]
    omega
  cases a with
  | char c =>
    cases b with
    | char d => exact congrArg char (Char.toNat_inj.mp h)
    | surrogate offset => exact absurd h (hchar c offset)
  | surrogate offset =>
    cases b with
    | char d => exact absurd h.symm (hchar d offset)
    | surrogate other => exact congrArg surrogate (Fin.ext (Nat.add_left_cancel h))

namespace Text

theorem le_antisymm {a b : Text} (hab : a.le b = true) (hba : b.le a = true) : a = b := by
  rw [le, Bool.not_eq_true', lt, List.lex_eq_false_iff_ge] at hab hba
  have hcodes : a.codes = b.codes := List.le_antisymm hab hba
  exact congrArg mk (List.map_injective_iff.mpr Glyph.code_injective hcodes)

theorem le_trans {a b c : Text} (hab : a.le b = true) (hbc : b.le c = true) : a.le c = true := by
  rw [le, Bool.not_eq_true', lt, List.lex_eq_false_iff_ge] at hab hbc ⊢
  exact List.le_trans hab hbc

theorem le_total (a b : Text) : (a.le b || b.le a) = true := by
  simp only [Bool.or_eq_true, le, Bool.not_eq_true', lt, List.lex_eq_false_iff_ge]
  exact List.le_total a.codes b.codes

end Text

end ScanLauncher

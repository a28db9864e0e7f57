import Mathlib.Data.Multiset.UnionInter
import ScanLauncher.Config.Suggest

namespace ScanLauncher.Config

/-- A run stands in both texts, at its two places. -/
def CommonRun.StandsIn (run : CommonRun) (a b : List Glyph) : Prop :=
  ∃ before between behind before' behind', a = before ++ between ++ behind ∧
    b = before' ++ between ++ behind' ∧
    run = ⟨before.length, before'.length, between.length⟩

namespace Similarity

/-- Before two places the texts agree on `n` characters. -/
def AgreeBefore (a b : List Glyph) (i j n : Nat) : Prop :=
  ∃ between : List Glyph, between.length = n ∧ i ≤ a.length ∧ j ≤ b.length ∧
    between <:+ a.take i ∧ between <:+ b.take j

variable {a b : List Glyph} {i j n : Nat} {c : Glyph}

theorem agreeBefore_zero (hi : i ≤ a.length) (hj : j ≤ b.length) : AgreeBefore a b i j 0 :=
  ⟨[], rfl, hi, hj, List.nil_suffix, List.nil_suffix⟩

theorem AgreeBefore.succ (h : AgreeBefore a b i j n) (ha : a[i]? = some c) (hb : b[j]? = some c) :
    AgreeBefore a b (i + 1) (j + 1) (n + 1) := by
  obtain ⟨between, hlength, _, _, ⟨before, hbefore⟩, before', hbefore'⟩ := h
  obtain ⟨hi, _⟩ := List.getElem?_eq_some_iff.mp ha
  obtain ⟨hj, _⟩ := List.getElem?_eq_some_iff.mp hb
  refine ⟨between ++ [c], by simp [hlength], hi, hj, ⟨before, ?_⟩, before', ?_⟩
  · rw [List.take_add_one, ha, ← hbefore, List.append_assoc]
    rfl
  · rw [List.take_add_one, hb, ← hbefore', List.append_assoc]
    rfl

private theorem AgreeBefore.standsIn (h : AgreeBefore a b i j n) :
    CommonRun.StandsIn ⟨i - n, j - n, n⟩ a b := by
  obtain ⟨between, rfl, hi, hj, ⟨before, hbefore⟩, before', hbefore'⟩ := h
  have hlength := congrArg List.length hbefore
  have hlength' := congrArg List.length hbefore'
  rw [List.length_append, List.length_take_of_le hi] at hlength
  rw [List.length_append, List.length_take_of_le hj] at hlength'
  refine ⟨before, between, a.drop i, before', b.drop j, ?_, ?_, ?_⟩
  · rw [hbefore, List.take_append_drop]
  · rw [hbefore', List.take_append_drop]
  · rw [← hlength, ← hlength', Nat.add_sub_cancel, Nat.add_sub_cancel]

/-- A row of the search: its entries say how far the texts agree before a place of the first text
and each place of the second from `j` on. -/
def IsRow (a b : List Glyph) (i j : Nat) (row : List Nat) : Prop :=
  ∀ k n, row[k]? = some n → AgreeBefore a b i (j + k) n

theorem IsRow.tail {row : List Nat} (h : IsRow a b i j row) : IsRow a b i (j + 1) row.tail := by
  intro k n hk
  rw [List.getElem?_tail] at hk
  have hentry := h (k + 1) n hk
  rwa [← Nat.add_assoc, Nat.add_right_comm] at hentry

theorem IsRow.headD {row : List Nat} (h : IsRow a b i j row) (hi : i ≤ a.length)
    (hj : j ≤ b.length) : AgreeBefore a b i j (row.headD 0) := by
  cases row with
  | nil => exact agreeBefore_zero hi hj
  | cons n row => exact h 0 n rfl

private theorem IsRow.cons_zero {row : List Nat} (h : IsRow a b i 1 row) (hi : i ≤ a.length) :
    IsRow a b i 0 (0 :: row) := by
  intro k n hk
  cases k with
  | zero =>
    obtain rfl : 0 = n := Option.some.inj hk
    exact agreeBefore_zero hi (Nat.zero_le _)
  | succ k =>
    rw [Nat.zero_add, Nat.add_comm]
    exact h k n hk

private theorem isRow_nextRow {rest : Rated} (hrest : b.drop j = rest.map Prod.fst) {above : List Nat}
    (habove : IsRow a b i j above) (hc : a[i]? = some c) :
    IsRow a b (i + 1) (j + 1) (nextRow c rest above) := by
  have hi : i < a.length := (List.getElem?_eq_some_iff.mp hc).1
  induction rest generalizing j above with
  | nil => exact nofun
  | cons entry rest ih =>
    obtain ⟨d, popular⟩ := entry
    have hd : b[j]? = some d := by
      rw [← List.head?_drop, hrest]
      rfl
    have hj : j < b.length := (List.getElem?_eq_some_iff.mp hd).1
    have hdrop : b.drop (j + 1) = rest.map Prod.fst := by
      rw [← List.tail_drop, hrest]
      rfl
    intro k n hk
    cases k with
    | zero =>
      obtain rfl := Option.some.inj hk
      split
      · rename_i hsame
        obtain ⟨hsame, _⟩ := Bool.and_eq_true_iff.mp hsame
        rw [eq_of_beq hsame] at hc
        exact (habove.headD hi.le hj.le).succ hc hd
      · exact agreeBefore_zero hi hj
    | succ k =>
      have hentry := ih hdrop habove.tail k n hk
      rwa [Nat.add_right_comm (j + 1)] at hentry

private theorem standsIn_bestInRow {row : List Nat} (hrow : IsRow a b (i + 1) (j + 1) row)
    {best : CommonRun} (hbest : best.StandsIn a b) : (bestInRow i j row best).StandsIn a b := by
  induction row generalizing j best with
  | nil => exact hbest
  | cons size row ih =>
    have hfirst := (hrow 0 size rfl).standsIn
    refine ih hrow.tail ?_
    split
    · exact hfirst
    · exact hbest

private theorem standsIn_bestRun {rated : Rated} (hb : b = rated.map Prod.fst) {rest : List Glyph}
    (hrest : a.drop i = rest) {above : List Nat} (habove : IsRow a b i 1 above) {best : CommonRun}
    (hbest : best.StandsIn a b) : (bestRun rated rest i above best).StandsIn a b := by
  induction rest generalizing i above best with
  | nil => exact hbest
  | cons c rest ih =>
    have hc : a[i]? = some c := by
      rw [← List.head?_drop, hrest]
      rfl
    have hi : i < a.length := (List.getElem?_eq_some_iff.mp hc).1
    have hdrop : a.drop (i + 1) = rest := by
      rw [← List.tail_drop, hrest]
      rfl
    have hrow : IsRow a b (i + 1) 1 (nextRow c rated (0 :: above)) :=
      isRow_nextRow (j := 0) hb (habove.cons_zero hi.le) hc
    exact ih hdrop hrow (standsIn_bestInRow hrow hbest)

/-- What two texts share at their start, as a start of both. -/
theorem exists_prefix_of_sharedStart (a : List Glyph) (b : Rated) :
    ∃ start, start.length = sharedStart a b ∧ start <+: a ∧ start <+: b.map Prod.fst := by
  induction a generalizing b with
  | nil => exact ⟨[], by simp [sharedStart], List.nil_prefix, List.nil_prefix⟩
  | cons c a ih =>
    cases b with
    | nil => exact ⟨[], by simp [sharedStart], List.nil_prefix, List.nil_prefix⟩
    | cons entry b =>
      by_cases hsame : c = entry.1
      · obtain ⟨start, hlength, ha, hb⟩ := ih b
        refine ⟨c :: start, by simp [sharedStart, hsame, hlength], ?_, ?_⟩
        · exact List.cons_prefix_cons.mpr ⟨rfl, ha⟩
        · exact List.cons_prefix_cons.mpr ⟨hsame, hb⟩
      · exact ⟨[], by simp [sharedStart, hsame], List.nil_prefix, List.nil_prefix⟩

theorem take_run (before between behind : List Glyph) :
    (before ++ between ++ behind).take before.length = before := by
  rw [List.append_assoc, List.take_left]

theorem drop_run (before between behind : List Glyph) :
    (before ++ between ++ behind).drop (before.length + between.length) = behind := by
  rw [← List.length_append, List.drop_left]

private theorem standsIn_widened {run : CommonRun} (h : run.StandsIn a b) {left right : List Glyph}
    (hleft : left <:+ a.take run.left) (hleft' : left <:+ b.take run.right)
    (hright : right <+: a.drop (run.left + run.size))
    (hright' : right <+: b.drop (run.right + run.size)) :
    CommonRun.StandsIn ⟨run.left - left.length, run.right - left.length,
      left.length + run.size + right.length⟩ a b := by
  obtain ⟨before, between, behind, before', behind', rfl, rfl, rfl⟩ := h
  simp only [take_run, drop_run] at hleft hleft' hright hright'
  obtain ⟨start, rfl⟩ := hleft
  obtain ⟨start', rfl⟩ := hleft'
  obtain ⟨finish, rfl⟩ := hright
  obtain ⟨finish', rfl⟩ := hright'
  refine ⟨start, left ++ between ++ right, finish, start', finish', ?_, ?_, ?_⟩
  · simp
  · simp
  · simp [Nat.add_assoc]

private theorem standsIn_agreeing {b : Rated} {run : CommonRun} (h : run.StandsIn a (b.map Prod.fst)) :
    let before := sharedStart (a.take run.left).reverse (b.take run.right).reverse
    let after := sharedStart (a.drop (run.left + run.size)) (b.drop (run.right + run.size))
    CommonRun.StandsIn ⟨run.left - before, run.right - before, before + run.size + after⟩ a
      (b.map Prod.fst) := by
  intro before after
  obtain ⟨left, hbefore, hleft, hleft'⟩ :=
    exists_prefix_of_sharedStart (a.take run.left).reverse (b.take run.right).reverse
  obtain ⟨right, hafter, hright, hright'⟩ :=
    exists_prefix_of_sharedStart (a.drop (run.left + run.size)) (b.drop (run.right + run.size))
  rw [← List.reverse_suffix, List.reverse_reverse] at hleft
  rw [List.map_reverse, List.map_take, ← List.reverse_suffix, List.reverse_reverse] at hleft'
  rw [List.map_drop] at hright'
  have hwide := standsIn_widened h hleft hleft' hright hright'
  rwa [List.length_reverse, hbefore, hafter] at hwide

private theorem standsIn_longestRun (a : List Glyph) (b : Rated) :
    (longestRun a b).StandsIn a (b.map Prod.fst) := by
  have hnone : CommonRun.StandsIn ⟨0, 0, 0⟩ a (b.map Prod.fst) :=
    ⟨[], [], a, [], b.map Prod.fst, rfl, rfl, rfl⟩
  have hrow : IsRow a (b.map Prod.fst) 0 1 [] := fun _ _ => nofun
  exact standsIn_agreeing (standsIn_bestRun rfl a.drop_zero hrow hnone)

private theorem exists_sublist_of_shared (a : List Glyph) (b : Rated) :
    ∃ l : List Glyph, l.length = shared a b ∧ l.Sublist a ∧ l.Sublist (b.map Prod.fst) := by
  induction a, b using shared.induct with
  | case1 a b run hrun ihleft ihright =>
    obtain ⟨left, hleft, hleftA, hleftB⟩ := ihleft
    obtain ⟨right, hright, hrightA, hrightB⟩ := ihright
    obtain ⟨before, between, behind, before', behind', ha, hb, hplaces⟩ := standsIn_longestRun a b
    have hshared : shared a b = shared (a.take run.left) (b.take run.right) + run.size +
        shared (a.drop (run.left + run.size)) (b.drop (run.right + run.size)) := by
      rw [shared]
      exact dif_pos hrun
    have hrunIs : run = ⟨before.length, before'.length, between.length⟩ := hplaces
    rw [List.map_take, hrunIs, hb, take_run] at hleftB
    rw [List.map_drop, hrunIs, hb, drop_run] at hrightB
    rw [hrunIs, ha, take_run] at hleftA
    rw [hrunIs, ha, drop_run] at hrightA
    refine ⟨left ++ between ++ right, ?_, ?_, ?_⟩
    · rw [hshared, List.length_append, List.length_append, hleft, hright, hrunIs]
    · rw [ha]
      exact (hleftA.append (.refl between)).append hrightA
    · rw [hb]
      exact (hleftB.append (.refl between)).append hrightB
  | case2 a b run hrun =>
    have hshared : shared a b = 0 := by
      rw [shared]
      exact dif_neg hrun
    exact ⟨[], hshared.symm, List.nil_sublist a, List.nil_sublist _⟩

theorem common_eq_card (a b : List Glyph) :
    common a b = ((a : Multiset Glyph) ∩ (b : Multiset Glyph)).card := by
  induction a generalizing b with
  | nil => simp [common]
  | cons c a ih =>
    by_cases hc : c ∈ b
    · have hinter := Multiset.cons_inter_of_pos (a : Multiset Glyph) (Multiset.mem_coe.mpr hc)
      rw [← Multiset.cons_coe, hinter, Multiset.card_cons, Multiset.coe_erase, ← ih]
      simp [common, hc]
    · have hinter := Multiset.cons_inter_of_neg (a : Multiset Glyph) (mt Multiset.mem_coe.mp hc)
      rw [← Multiset.cons_coe, hinter, ← ih]
      simp [common, hc]

private theorem length_le_common {l : List Glyph} (ha : l.Sublist a) (hb : l.Sublist b) :
    l.length ≤ common a b := by
  rw [common_eq_card, ← Multiset.coe_card]
  exact Multiset.card_le_card (Multiset.le_inter (Multiset.coe_le.mpr ha.subperm)
    (Multiset.coe_le.mpr hb.subperm))

theorem shared_le_common (a b : List Glyph) : shared a (rated b) ≤ common a b := by
  obtain ⟨l, hlength, ha, hb⟩ := exists_sublist_of_shared a (rated b)
  have hglyphs : (rated b).map Prod.fst = b := by simp [rated, Function.comp_def]
  rw [hglyphs] at hb
  rw [← hlength]
  exact length_le_common ha hb

theorem common_le_min (a b : List Glyph) : common a b ≤ min a.length b.length := by
  rw [common_eq_card, ← Multiset.coe_card a, ← Multiset.coe_card b]
  exact Nat.le_min.mpr ⟨Multiset.card_le_card Multiset.inter_le_left,
    Multiset.card_le_card Multiset.inter_le_right⟩

end Similarity

end ScanLauncher.Config

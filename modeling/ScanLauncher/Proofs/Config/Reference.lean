import Mathlib.Data.List.TakeWhile
import ScanLauncher.Config.Expand

namespace ScanLauncher.Config

namespace Reference

/-- A reference that can be written: it has a name, and no mark ends its name or its fallback early. -/
structure IsProper (r : Reference) : Prop where
  named : r.name.glyphs ≠ []
  name : ∀ g ∈ r.name.glyphs, g ≠ closing ∧ g ≠ .char ':'
  fallback : ∀ t, r.fallback = some t → closing ∉ t.glyphs

/-- What follows the name in writing. -/
def fallbackGlyphs : Option Text → List Glyph
  | none => []
  | some t => .char ':' :: .char '-' :: t.glyphs

/-- A reference in writing, after its opening bracket. -/
def inner (r : Reference) : List Glyph := r.name.glyphs ++ (fallbackGlyphs r.fallback ++ [closing])

/-- A reference in writing. -/
def written (r : Reference) : List Glyph := .char '$' :: .char '\x7b' :: r.inner

theorem isNameGlyph_iff {g : Glyph} : isNameGlyph g = true ↔ g ≠ closing ∧ g ≠ .char ':' := by
  simp [isNameGlyph]

/-- The name ends where the fallback or the closing bracket starts. -/
theorem IsProper.takeWhile_name {r : Reference} (h : r.IsProper) (after : List Glyph)
    (hafter : after.takeWhile isNameGlyph = []) :
    (r.name.glyphs ++ after).takeWhile isNameGlyph = r.name.glyphs := by
  rw [List.takeWhile_append_of_pos fun g hg => isNameGlyph_iff.mpr (h.name g hg), hafter,
    List.append_nil]

theorem IsProper.dropWhile_name {r : Reference} (h : r.IsProper) (after : List Glyph)
    (hafter : after.dropWhile isNameGlyph = after) :
    (r.name.glyphs ++ after).dropWhile isNameGlyph = after := by
  rw [List.dropWhile_append_of_pos fun g hg => isNameGlyph_iff.mpr (h.name g hg), hafter]

theorem ne_closing_of_not_mem {glyphs : List Glyph} (h : closing ∉ glyphs) {g : Glyph}
    (hg : g ∈ glyphs) : (g != closing) = true := by
  rw [bne_iff_ne]
  rintro rfl
  exact h hg

theorem readInner?_inner {r : Reference} (h : r.IsProper) (rest : List Glyph) :
    readInner? (r.inner ++ rest) = some (r, rest) := by
  obtain ⟨name, fallback⟩ := r
  have hname : name.glyphs.isEmpty = false := by simpa using h.named
  cases fallback with
  | none =>
    have htake := h.takeWhile_name (closing :: rest) rfl
    have hdrop := h.dropWhile_name (closing :: rest) rfl
    simp only [closing] at htake hdrop
    simp [readInner?, inner, fallbackGlyphs, closing, htake, hdrop, hname]
  | some t =>
    have hopen : closing ∉ t.glyphs := h.fallback t rfl
    let after : List Glyph := .char ':' :: .char '-' :: (t.glyphs ++ closing :: rest)
    have htake := h.takeWhile_name after rfl
    have hdrop := h.dropWhile_name after rfl
    have hfallback : (t.glyphs ++ closing :: rest).takeWhile (· != closing) = t.glyphs := by
      rw [List.takeWhile_append_of_pos fun g hg => ne_closing_of_not_mem hopen hg]
      simp
    have hclosing : (t.glyphs ++ closing :: rest).dropWhile (· != closing) = closing :: rest := by
      rw [List.dropWhile_append_of_pos fun g hg => ne_closing_of_not_mem hopen hg]
      simp
    simp only [after] at htake hdrop
    simp [readInner?, inner, fallbackGlyphs, htake, hdrop, hname, hfallback, hclosing]

private theorem not_mem_takeWhile_closing (glyphs : List Glyph) :
    closing ∉ glyphs.takeWhile (· != closing) := by
  intro hmem
  simpa using List.mem_takeWhile_imp hmem

theorem isProper_mk {glyphs : List Glyph} {fallback : Option Text}
    (hname : (glyphs.takeWhile isNameGlyph).isEmpty = false)
    (hfallback : ∀ t, fallback = some t → closing ∉ t.glyphs) :
    IsProper ⟨⟨glyphs.takeWhile isNameGlyph⟩, fallback⟩ where
  named := by simpa using hname
  name := fun _ hg => isNameGlyph_iff.mp (List.mem_takeWhile_imp hg)
  fallback := hfallback

private theorem eq_inner_of_readInner? {glyphs rest : List Glyph} {r : Reference}
    (h : readInner? glyphs = some (r, rest)) : r.IsProper ∧ glyphs = r.inner ++ rest := by
  have hsplit : glyphs.takeWhile isNameGlyph ++ glyphs.dropWhile isNameGlyph = glyphs :=
    List.takeWhile_append_dropWhile
  unfold readInner? at h
  cases hname : (glyphs.takeWhile isNameGlyph).isEmpty with
  | true => simp [hname] at h
  | false =>
    simp only [hname, Bool.false_eq_true, if_false] at h
    split at h
    · rename_i after hafter
      simp only [Option.some.injEq, Prod.mk.injEq] at h
      obtain ⟨rfl, rfl⟩ := h
      refine ⟨isProper_mk hname nofun, ?_⟩
      rw [hafter] at hsplit
      simpa [inner, fallbackGlyphs, closing] using hsplit.symm
    · rename_i tail hafter
      have htail : tail.takeWhile (· != closing) ++ tail.dropWhile (· != closing) = tail :=
        List.takeWhile_append_dropWhile
      split at h
      · rename_i mark after hclosing
        simp only [Option.some.injEq, Prod.mk.injEq] at h
        obtain ⟨rfl, rfl⟩ := h
        have hmark : mark = closing := by
          have hhead := List.head?_dropWhile_not (· != closing) tail
          rw [hclosing] at hhead
          simpa using hhead
        refine ⟨isProper_mk hname fun t ht => ?_, ?_⟩
        · obtain rfl := Option.some.inj ht
          exact not_mem_takeWhile_closing tail
        · rw [hafter, ← htail, hclosing, hmark] at hsplit
          simpa [inner, fallbackGlyphs] using hsplit.symm
      · cases h
    · cases h

/-- A reference is read where one stands in writing, and nowhere else. -/
theorem read?_eq_some_iff {glyphs rest : List Glyph} {r : Reference} :
    read? glyphs = some (r, rest) ↔ r.IsProper ∧ glyphs = r.written ++ rest := by
  constructor
  · intro h
    unfold read? at h
    split at h
    · obtain ⟨hproper, hinner⟩ := eq_inner_of_readInner? h
      exact ⟨hproper, by rw [hinner, written, List.cons_append, List.cons_append]⟩
    · cases h
  · rintro ⟨hproper, rfl⟩
    exact readInner?_inner hproper rest

/-- A reference starts at the first of some glyphs. -/
def Starts (glyphs : List Glyph) : Prop :=
  ∃ (r : Reference) (rest : List Glyph), r.IsProper ∧ glyphs = r.written ++ rest

theorem read?_eq_none_iff {glyphs : List Glyph} : read? glyphs = none ↔ ¬ Starts glyphs := by
  constructor
  · rintro h ⟨r, rest, hstarts⟩
    rw [read?_eq_some_iff.mpr hstarts] at h
    cases h
  · intro h
    cases hread : read? glyphs with
    | none => rfl
    | some found =>
      exact absurd ⟨found.1, found.2, read?_eq_some_iff.mp hread⟩ h

/-- The text that a reference stands for: the variable's value if it is set, else the fallback if
there is one, else nothing. -/
def value (env : Environment) (r : Reference) : Text :=
  match env.find? r.name, r.fallback with
  | some value, _ => value
  | none, some fallback => fallback
  | none, none => ""

/-- A reference to a variable that is not set, without a fallback. -/
def IsMissing (env : Environment) (r : Reference) : Prop :=
  env.find? r.name = none ∧ r.fallback = none

instance (env : Environment) (r : Reference) : Decidable (r.IsMissing env) :=
  inferInstanceAs (Decidable (_ ∧ _))

/-- A name that a variable can have: its glyphs are characters or stand for bytes. -/
def IsEncodable (r : Reference) : Prop := r.name.toBytes?.isSome = true

instance (r : Reference) : Decidable r.IsEncodable := inferInstanceAs (Decidable (_ = true))

end Reference

/-- A text cut at references: a literal, and as long as there is a reference, the reference and what
comes after it. -/
inductive Cuts where
  | last (literal : List Glyph)
  | more (literal : List Glyph) (r : Reference) (rest : Cuts)

namespace Cuts

/-- The text that was cut. -/
def text : Cuts → List Glyph
  | last literal => literal
  | more literal r rest => literal ++ (r.written ++ rest.text)

/-- The references, in order. -/
def references : Cuts → List Reference
  | last _ => []
  | more _ r rest => r :: rest.references

/-- The text with a value in the place of every reference. -/
def fill (env : Environment) : Cuts → List Glyph
  | last literal => literal
  | more literal r rest => literal ++ ((r.value env).glyphs ++ rest.fill env)

/-- No reference starts inside a literal, whatever glyphs follow it. -/
def IsSilent (literal following : List Glyph) : Prop :=
  ∀ before inside, literal = before ++ inside → inside ≠ [] → ¬ Reference.Starts (inside ++ following)

/-- The cuts are at references, and at all that start outside of another one. -/
def IsExact : Cuts → Prop
  | last literal => IsSilent literal []
  | more literal r rest =>
    IsSilent literal (r.written ++ rest.text) ∧ r.IsProper ∧ rest.IsExact

/-- The cuts as pieces. -/
def pieces : Cuts → List Piece
  | last literal => literal.map .literal
  | more literal r rest => literal.map .literal ++ .reference r :: rest.pieces

/-- Cuts with a glyph put in front. -/
def push (g : Glyph) : Cuts → Cuts
  | last literal => last (g :: literal)
  | more literal r rest => more (g :: literal) r rest

/-- The cuts between pieces. -/
def ofPieces : List Piece → Cuts
  | [] => last []
  | .literal g :: pieces => (ofPieces pieces).push g
  | .reference r :: pieces => more [] r (ofPieces pieces)

/-- The cuts of a text. -/
def of (t : Text) : Cuts := ofPieces (Piece.cut t.glyphs)

theorem isSilent_cons {g : Glyph} {literal following : List Glyph} :
    IsSilent (g :: literal) following ↔
      ¬ Reference.Starts (g :: literal ++ following) ∧ IsSilent literal following := by
  constructor
  · intro h
    refine ⟨h [] (g :: literal) rfl (List.cons_ne_nil _ _), ?_⟩
    rintro before inside rfl hinside
    exact h (g :: before) inside rfl hinside
  · rintro ⟨hfirst, hlater⟩ before inside hsplit hinside
    cases before with
    | nil =>
      obtain rfl : g :: literal = inside := hsplit
      exact hfirst
    | cons b before =>
      obtain ⟨rfl, rfl⟩ := List.cons.inj hsplit
      exact hlater before inside rfl hinside

theorem isSilent_nil (following : List Glyph) : IsSilent [] following := by
  intro before inside hsplit hinside
  exact absurd (List.append_eq_nil_iff.mp hsplit.symm).2 hinside

section Push

variable (g : Glyph) (c : Cuts)

private theorem text_push : (c.push g).text = g :: c.text := by cases c <;> rfl

private theorem references_push : (c.push g).references = c.references := by cases c <;> rfl

private theorem fill_push (env : Environment) : (c.push g).fill env = g :: c.fill env := by cases c <;> rfl

private theorem isExact_push : (c.push g).IsExact ↔ ¬ Reference.Starts (g :: c.text) ∧ c.IsExact := by
  cases c with
  | last literal => simpa [push, IsExact, text] using @isSilent_cons g literal []
  | more literal r rest => simp [push, IsExact, text, isSilent_cons, and_assoc]

end Push

private theorem ofPieces_pieces (c : Cuts) : ofPieces c.pieces = c := by
  have hliteral (literal : List Glyph) (pieces : List Piece) :
      ofPieces (literal.map .literal ++ pieces) = literal.foldr push (ofPieces pieces) := by
    induction literal with
    | nil => rfl
    | cons g literal ih => rw [List.map_cons, List.cons_append, ofPieces, ih, List.foldr_cons]
  have hlast (before literal : List Glyph) :
      before.foldr push (last literal) = last (before ++ literal) := by
    induction before with
    | nil => rfl
    | cons g before ih => rw [List.foldr_cons, ih, push, List.cons_append]
  have hmore (before literal : List Glyph) (r : Reference) (rest : Cuts) :
      before.foldr push (more literal r rest) = more (before ++ literal) r rest := by
    induction before with
    | nil => rfl
    | cons g before ih => rw [List.foldr_cons, ih, push, List.cons_append]
  induction c with
  | last literal =>
    rw [pieces, ← List.append_nil (literal.map _), hliteral, ofPieces, hlast, List.append_nil]
  | more literal r rest ih => rw [pieces, hliteral, ofPieces, ih, hmore, List.append_nil]

end Cuts

namespace Piece

theorem cut_of_read?_none {g : Glyph} {glyphs : List Glyph}
    (h : Reference.read? (g :: glyphs) = none) : cut (g :: glyphs) = .literal g :: cut glyphs := by
  rw [cut]
  split
  · rename_i r rest hread
    rw [h] at hread
    cases hread
  · rfl

theorem cut_of_read?_some {g : Glyph} {glyphs rest : List Glyph} {r : Reference}
    (h : Reference.read? (g :: glyphs) = some (r, rest)) :
    cut (g :: glyphs) = .reference r :: cut rest := by
  rw [cut]
  split
  · rename_i r' rest' hread
    rw [h] at hread
    obtain ⟨rfl, rfl⟩ := Prod.mk.inj (Option.some.inj hread)
    rfl
  · rename_i hread
    rw [h] at hread
    cases hread

theorem cut_literal {literal following : List Glyph} (h : Cuts.IsSilent literal following) :
    cut (literal ++ following) = literal.map .literal ++ cut following := by
  induction literal with
  | nil => rfl
  | cons g literal ih =>
    obtain ⟨hfirst, hlater⟩ := Cuts.isSilent_cons.mp h
    have hread := Reference.read?_eq_none_iff.mpr hfirst
    rw [List.cons_append] at hread ⊢
    rw [cut_of_read?_none hread, ih hlater, List.map_cons, List.cons_append]

private theorem cut_written {r : Reference} (h : r.IsProper) (following : List Glyph) :
    cut (r.written ++ following) = .reference r :: cut following :=
  cut_of_read?_some (Reference.read?_eq_some_iff.mpr ⟨h, rfl⟩)

private theorem cut_text {c : Cuts} (h : c.IsExact) : cut c.text = c.pieces := by
  induction c with
  | last literal =>
    have hcut := cut_literal h
    rwa [List.append_nil, cut, List.append_nil] at hcut
  | more literal r rest ih =>
    obtain ⟨hsilent, hproper, hrest⟩ := h
    rw [Cuts.text, cut_literal hsilent, cut_written hproper, ih hrest, Cuts.pieces]

end Piece

namespace Cuts

private theorem ofPieces_cut (glyphs : List Glyph) :
    (ofPieces (Piece.cut glyphs)).text = glyphs ∧ (ofPieces (Piece.cut glyphs)).IsExact := by
  induction glyphs using Piece.cut.induct with
  | case1 =>
    rw [Piece.cut]
    exact ⟨rfl, isSilent_nil []⟩
  | case2 g glyphs r rest hread _ ih =>
    obtain ⟨hproper, hwritten⟩ := Reference.read?_eq_some_iff.mp hread
    obtain ⟨htext, hexact⟩ := ih
    rw [Piece.cut_of_read?_some hread]
    refine ⟨?_, isSilent_nil _, hproper, hexact⟩
    rw [ofPieces, text, htext, hwritten, List.nil_append]
  | case3 g glyphs hread ih =>
    obtain ⟨htext, hexact⟩ := ih
    rw [Piece.cut_of_read?_none hread, ofPieces, text_push, htext]
    refine ⟨rfl, (isExact_push g _).mpr ⟨?_, hexact⟩⟩
    rw [htext]
    exact Reference.read?_eq_none_iff.mp hread

/-- There is just one way to cut a text. -/
theorem eq_of_iff {c : Cuts} {t : Text} : c.text = t.glyphs ∧ c.IsExact ↔ c = of t := by
  constructor
  · rintro ⟨htext, hexact⟩
    rw [of, ← htext, Piece.cut_text hexact, ofPieces_pieces]
  · rintro rfl
    exact ofPieces_cut t.glyphs

end Cuts

private theorem Reference.value_eq (env : Environment) (r : Reference) :
    Piece.value env (.reference r) = r.value env := by
  rw [Piece.value, Reference.value]
  cases env.find? r.name with
  | some value => rfl
  | none => cases r.fallback <;> rfl

/-- A text with its references replaced is the text with its cuts filled. -/
theorem expandText_eq_fill (env : Environment) (t : Text) :
    expandText env t = ⟨(Cuts.of t).fill env⟩ := by
  have hpieces (pieces : List Piece) :
      (pieces.map (Piece.value env)).flatMap Text.glyphs = (Cuts.ofPieces pieces).fill env := by
    induction pieces with
    | nil => rfl
    | cons piece pieces ih =>
      rw [List.map_cons, List.flatMap_cons, ih]
      cases piece with
      | literal g => rw [Cuts.ofPieces, Cuts.fill_push]; rfl
      | reference r => rw [Reference.value_eq]; rfl
  rw [expandText, Text.join, hpieces, Cuts.of]

/-- What is noticed in a text is noticed at its references. -/
theorem noticesInText_eq (env : Environment) (t : Text) :
    noticesInText env t =
      (Cuts.of t).references.filterMap fun r => Piece.notice? env (.reference r) := by
  have hpieces (pieces : List Piece) :
      pieces.filterMap (Piece.notice? env) =
        (Cuts.ofPieces pieces).references.filterMap fun r => Piece.notice? env (.reference r) := by
    induction pieces with
    | nil => rfl
    | cons piece pieces ih =>
      cases piece with
      | literal g =>
        rw [Cuts.ofPieces, Cuts.references_push, ← ih]
        rfl
      | reference r =>
        rw [Cuts.ofPieces, Cuts.references, List.filterMap_cons, List.filterMap_cons, ih]
  rw [noticesInText, hpieces, Cuts.of]

end ScanLauncher.Config

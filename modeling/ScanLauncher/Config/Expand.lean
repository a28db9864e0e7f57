import ScanLauncher.Environment
import ScanLauncher.Value.Basic

/-!
References to environment variables inside texts, `${NAME}` and `${NAME:-default}`. A text is cut
into pieces from left to right; what a reference stands for is never cut again.
-/
namespace ScanLauncher

namespace Config

/-- A reference to a variable, with the text to use where it is not set. -/
structure Reference where
  name : Text
  fallback : Option Text
deriving DecidableEq, Repr

/-- A piece of a text: a glyph of its own, or a reference. -/
inductive Piece where
  | literal (g : Glyph)
  | reference (r : Reference)
deriving DecidableEq, Repr

namespace Reference

/-- The bracket that ends a reference. -/
def closing : Glyph := .char '\x7d'

/-- A glyph of a variable's name. -/
def isNameGlyph (g : Glyph) : Bool := g != closing && g != .char ':'

/-- Reads what follows the opening bracket of a reference: its name, an optional fallback and the
closing bracket. -/
def readInner? (glyphs : List Glyph) : Option (Reference × List Glyph) :=
  let name := glyphs.takeWhile isNameGlyph
  if name.isEmpty then none
  else
    match glyphs.dropWhile isNameGlyph with
    | .char '\x7d' :: rest => some (⟨⟨name⟩, none⟩, rest)
    | .char ':' :: .char '-' :: rest =>
      match rest.dropWhile (· != closing) with
      | _ :: after => some (⟨⟨name⟩, some ⟨rest.takeWhile (· != closing)⟩⟩, after)
      | [] => none
    | _ => none

/-- Reads the reference at the start of a text, and gives the rest. -/
def read? : List Glyph → Option (Reference × List Glyph)
  | .char '$' :: .char '\x7b' :: glyphs => readInner? glyphs
  | _ => none

theorem length_dropWhile_le (p : Glyph → Bool) (glyphs : List Glyph) :
    (glyphs.dropWhile p).length ≤ glyphs.length :=
  (List.dropWhile_sublist p).length_le

theorem readInner?_length {glyphs rest : List Glyph} {r : Reference}
    (h : readInner? glyphs = some (r, rest)) : rest.length < glyphs.length := by
  unfold readInner? at h
  simp only at h
  split at h
  · simp at h
  have hle := length_dropWhile_le isNameGlyph glyphs
  split at h
  · rename_i after heq
    rw [heq] at hle
    simp only [Option.some.injEq, Prod.mk.injEq] at h
    simp only [List.length_cons] at hle
    obtain ⟨-, rfl⟩ := h
    omega
  · rename_i tail heq
    rw [heq] at hle
    simp only [List.length_cons] at hle
    have hdefault := length_dropWhile_le (· != closing) tail
    split at h
    · rename_i c after hafter
      rw [hafter] at hdefault
      simp only [List.length_cons] at hdefault
      simp only [Option.some.injEq, Prod.mk.injEq] at h
      obtain ⟨-, rfl⟩ := h
      omega
    · simp at h
  · simp at h

theorem read?_length {glyphs rest : List Glyph} {r : Reference}
    (h : read? glyphs = some (r, rest)) : rest.length < glyphs.length := by
  unfold read? at h
  split at h
  · have := readInner?_length h
    simp only [List.length_cons]
    omega
  · simp at h

end Reference

namespace Piece

/-- Cuts a text into pieces. A reference is taken wherever one starts. -/
def cut : List Glyph → List Piece
  | [] => []
  | g :: glyphs =>
    match hread : Reference.read? (g :: glyphs) with
    | some (r, rest) =>
      have : rest.length < (g :: glyphs).length := Reference.read?_length hread
      .reference r :: cut rest
    | none => .literal g :: cut glyphs
termination_by glyphs => glyphs.length
decreasing_by all_goals simp only [List.length_cons] at *; omega

/-- The text a piece stands for. -/
def value (env : Environment) : Piece → Text
  | literal g => ⟨[g]⟩
  | reference r => ((env.find? r.name).or r.fallback).getD ""

end Piece

/-- What is noticed while references are replaced. -/
inductive Notice where
  /-- A variable is not set, and its reference has no fallback. -/
  | missing (name : Text)
  /-- No variable can have such a name. -/
  | impossibleName
  /-- A collection holds itself. -/
  | endless
deriving DecidableEq, Repr

/-- What is noticed at a piece. -/
def Piece.notice? (env : Environment) : Piece → Option Notice
  | .literal _ => none
  | .reference r =>
    if r.name.toBytes?.isNone then some .impossibleName
    else if ((env.find? r.name).or r.fallback).isSome then none
    else some (.missing r.name)

/-- A text with its references replaced. -/
def expandText (env : Environment) (t : Text) : Text :=
  Text.join ((Piece.cut t.glyphs).map (Piece.value env))

/-- What is noticed in a text, in order. -/
def noticesInText (env : Environment) (t : Text) : List Notice :=
  (Piece.cut t.glyphs).filterMap (Piece.notice? env)

mutual

/-- A value with the references in all its texts replaced. Keys stay as they are. -/
def expand (env : Environment) : Value → Value
  | .text s => .text (expandText env s)
  | .list items => .list (expandItems env items)
  | .map entries => .map (expandEntries env entries)
  | value => value

/-- The items of a list, each expanded. -/
def expandItems (env : Environment) : List Value → List Value
  | [] => []
  | item :: rest => expand env item :: expandItems env rest

/-- The entries of a mapping, the value of each expanded. -/
def expandEntries (env : Environment) : List (Value × Value) → List (Value × Value)
  | [] => []
  | (key, value) :: rest => (key, expand env value) :: expandEntries env rest

end

mutual

/-- What is noticed in a value, in the order of its texts. -/
def notices (env : Environment) : Value → List Notice
  | .text s => noticesInText env s
  | .list items => noticesInItems env items
  | .map entries => noticesInEntries env entries
  | .cycle _ => [.endless]
  | _ => []

/-- What is noticed in the items of a list. -/
def noticesInItems (env : Environment) : List Value → List Notice
  | [] => []
  | item :: rest => notices env item ++ noticesInItems env rest

/-- What is noticed in the values of a mapping. -/
def noticesInEntries (env : Environment) : List (Value × Value) → List Notice
  | [] => []
  | (_, value) :: rest => notices env value ++ noticesInEntries env rest

end

end Config

end ScanLauncher

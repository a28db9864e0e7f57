import Mathlib.Data.List.Basic
import ScanLauncher.Config.File
import ScanLauncher.Proofs.Action
import ScanLauncher.Proofs.Config.Reference
import ScanLauncher.Proofs.Value.Leaves
import ScanLauncher.Proofs.Value.Tidy

namespace ScanLauncher

namespace Config

/-- A leaf with its references replaced. -/
def fillLeaf (env : Environment) : Value → Value
  | .text t => .text ⟨(Cuts.of t).fill env⟩
  | leaf => leaf

/-- The references of a leaf, in order. -/
def referencesOfLeaf : Value → List Reference
  | .text t => (Cuts.of t).references
  | _ => []

/-- The references of a value, in the order of its leaves. -/
def references (value : Value) : List Reference := value.leaves.flatMap referencesOfLeaf

/-- The names that are not set and have no fallback, in order. -/
def missingNames (env : Environment) (references : List Reference) : List Text :=
  (references.filter (·.IsMissing env)).map Reference.name

/-- The record of a variable that is missed. -/
def missingRecord (name : Text) : LogRecord :=
  ⟨.warning, .loader, "Environment variable $" ++ name ++ " is not set and has no default"⟩

/-- A world in which some variables were noted as missed. -/
def afterMissing (w : World) (names : List Text) : World :=
  { w with log := w.log ++ names.map missingRecord }

/-- Replaces the references in a value, and notes what is missed. -/
def expansion (value : Value) : Act Value := do
  noteMissing value
  return expand (← get).env value

section Structure

variable (env : Environment)

theorem expand_list (items : List Value) :
    expand env (.list items) = .list (items.map (expand env)) := by
  have hitems : expandItems env items = items.map (expand env) := by
    induction items with
    | nil => rw [expandItems, List.map_nil]
    | cons item rest ih => rw [expandItems, ih, List.map_cons]
  rw [expand, hitems]

theorem expand_map (entries : Entries) :
    expand env (.map entries) = .map (entries.map fun entry => (entry.1, expand env entry.2)) := by
  rw [expand, expandEntries_eq_map]

theorem expand_of_isLeaf {value : Value} (h : value.IsLeaf) : expand env value = fillLeaf env value := by
  cases value with
  | text t => rw [expand, fillLeaf, expandText_eq_fill]
  | list items => exact absurd rfl (h.not_list items)
  | map entries => exact absurd rfl (h.not_map entries)
  | _ => simp [expand, fillLeaf]

theorem isLeaf_fillLeaf {value : Value} (h : value.IsLeaf) : (fillLeaf env value).IsLeaf := by
  cases value with
  | text t => exact ⟨nofun, nofun⟩
  | _ => exact h

/-- The lists, mappings and keys stay as they are. -/
theorem skeleton_expand (value : Value) : (expand env value).skeleton = value.skeleton := by
  induction value using Value.induction with
  | onLeaf value h => rw [expand_of_isLeaf env h, (isLeaf_fillLeaf env h).skeleton_eq, h.skeleton_eq]
  | onList items ih =>
    rw [expand_list, Value.skeleton_list, Value.skeleton_list, List.map_map]
    exact congrArg _ (List.map_congr_left ih)
  | onMap entries ih =>
    rw [expand_map, Value.skeleton_map, Value.skeleton_map, List.map_map]
    apply congrArg
    apply List.map_congr_left
    intro entry hentry
    exact congrArg (entry.1, ·) (ih entry hentry)

/-- Every leaf is filled by itself. -/
theorem leaves_expand (value : Value) :
    (expand env value).leaves = value.leaves.map (fillLeaf env) := by
  induction value using Value.induction with
  | onLeaf value h =>
    rw [expand_of_isLeaf env h, (isLeaf_fillLeaf env h).leaves_eq, h.leaves_eq, List.map_singleton]
  | onList items ih =>
    rw [expand_list, Value.leaves_list, Value.leaves_list, List.flatMap_map, List.map_flatMap]
    exact List.flatMap_congr ih
  | onMap entries ih =>
    rw [expand_map, Value.leaves_map, Value.leaves_map, List.flatMap_map, List.map_flatMap]
    exact List.flatMap_congr ih

private theorem eq_expand_iff {value other : Value} :
    other = expand env value ↔
      other.skeleton = value.skeleton ∧ other.leaves = value.leaves.map (fillLeaf env) := by
  constructor
  · rintro rfl
    exact ⟨skeleton_expand env value, leaves_expand env value⟩
  · rintro ⟨hskeleton, hleaves⟩
    apply Value.eq_of_skeleton
    · rw [hskeleton, skeleton_expand]
    · rw [hleaves, leaves_expand]

end Structure

section Notices

variable (env : Environment)

/-- What is noticed at a leaf. -/
def noticesAtLeaf : Value → List Notice
  | .text t => noticesInText env t
  | .cycle _ => [.endless]
  | _ => []

private theorem notices_eq_flatMap (value : Value) :
    notices env value = value.leaves.flatMap (noticesAtLeaf env) := by
  induction value using Value.induction with
  | onLeaf value h =>
    rw [h.leaves_eq, List.flatMap_singleton]
    cases value with
    | list items => exact absurd rfl (h.not_list items)
    | map entries => exact absurd rfl (h.not_map entries)
    | _ => simp [notices, noticesAtLeaf]
  | onList items ih =>
    rw [notices, Value.leaves_list, List.flatMap_assoc, ← List.flatMap_congr ih]
    clear ih
    induction items with
    | nil => rw [noticesInItems, List.flatMap_nil]
    | cons item rest ih => rw [noticesInItems, ih, List.flatMap_cons]
  | onMap entries ih =>
    rw [notices, Value.leaves_map, List.flatMap_assoc, ← List.flatMap_congr ih]
    clear ih
    induction entries with
    | nil => rw [noticesInEntries, List.flatMap_nil]
    | cons entry rest ih => rw [noticesInEntries, ih, List.flatMap_cons]

/-- In a value that does not hold itself, all that is noticed is noticed at a reference. -/
theorem notices_eq_filterMap {value : Value} (h : ∀ isMap, .cycle isMap ∉ value.leaves) :
    notices env value =
      (references value).filterMap fun r => Piece.notice? env (.reference r) := by
  rw [notices_eq_flatMap, references, List.filterMap_flatMap]
  apply List.flatMap_congr
  intro leaf hleaf
  cases leaf with
  | text t => exact noticesInText_eq env t
  | cycle isMap => exact absurd hleaf (h isMap)
  | _ => rfl

end Notices

/-- What is done about a notice. -/
def Notice.note : Notice → Act Unit
  | .missing name =>
    Act.log .warning .loader
      ("Environment variable $" ++ name ++ " is not set and has no default")
  | .impossibleName => throw .notEncodable
  | .endless => throw .tooDeep

theorem noteMissing_apply (value : Value) (w : World) :
    noteMissing value w = (notices w.env value).forM Notice.note w := rfl

theorem notice?_of_isEncodable {r : Reference} (h : r.IsEncodable) (env : Environment) :
    Piece.notice? env (.reference r) = if r.IsMissing env then some (.missing r.name) else none := by
  have hnamed : r.name.toBytes?.isNone = false := Option.isNone_eq_false_iff.mpr h
  rw [Piece.notice?, hnamed, if_neg Bool.false_ne_true]
  cases hfind : env.find? r.name with
  | some value => simp [Reference.IsMissing, hfind]
  | none => cases hfallback : r.fallback <;> simp [Reference.IsMissing, hfind, hfallback]

theorem notice?_of_not_isEncodable {r : Reference} (h : ¬ r.IsEncodable) (env : Environment) :
    Piece.notice? env (.reference r) = some .impossibleName := by
  have hnameless : r.name.toBytes?.isNone = true := by simpa [Reference.IsEncodable] using h
  rw [Piece.notice?, if_pos hnameless]

/-- References to names that variables can have are noted one after the other, before anything
else is. -/
theorem forM_note_append (env : Environment) {before : List Reference}
    (h : ∀ r ∈ before, r.IsEncodable) (behind : List Notice) (w : World) :
    ((before.filterMap fun r => Piece.notice? env (.reference r)) ++ behind).forM Notice.note w =
      behind.forM Notice.note (afterMissing w (missingNames env before)) := by
  induction before generalizing w with
  | nil => simp [afterMissing, missingNames]
  | cons r before ih =>
    have hrest : ∀ r ∈ before, r.IsEncodable := fun r' hr' => h r' (.tail _ hr')
    rw [List.filterMap_cons, notice?_of_isEncodable (h r (.head _))]
    by_cases hmissing : r.IsMissing env
    · have hnames : missingNames env (r :: before) = r.name :: missingNames env before := by
        simp [missingNames, hmissing]
      have hnext := ih hrest (w.note .warning .loader (missingRecord r.name).message)
      rw [hnames, if_pos hmissing, List.cons_append]
      simpa [Notice.note, afterMissing, World.note, missingRecord] using hnext
    · have hnames : missingNames env (r :: before) = missingNames env before := by
        simp [missingNames, hmissing]
      rw [hnames, if_neg hmissing]
      exact ih hrest w

section Expansion

variable {value : Value} (hfinite : ∀ isMap, .cycle isMap ∉ value.leaves) (w : World)

include hfinite

private theorem expansion_of_isEncodable (h : ∀ r ∈ references value, r.IsEncodable) :
    expansion value w =
      (.ok (expand w.env value), afterMissing w (missingNames w.env (references value))) := by
  have hnoted := forM_note_append w.env h [] w
  rw [List.append_nil, ← notices_eq_filterMap w.env hfinite, ← noteMissing_apply] at hnoted
  rw [expansion, Act.bind_apply, hnoted]
  rfl

theorem expansion_of_not_isEncodable {before after : List Reference} {r : Reference}
    (hsplit : references value = before ++ r :: after) (hbefore : ∀ r ∈ before, r.IsEncodable)
    (h : ¬ r.IsEncodable) :
    expansion value w =
      (.error .notEncodable, afterMissing w (missingNames w.env before)) := by
  have hnotices := notices_eq_filterMap w.env hfinite
  rw [hsplit, List.filterMap_append, List.filterMap_cons, notice?_of_not_isEncodable h] at hnotices
  rw [expansion, Act.bind_apply, noteMissing_apply, hnotices, forM_note_append w.env hbefore]
  rfl

end Expansion

private theorem map_readEntries {path : Path} {entries : Entries} {w w' : World}
    (h : readDocument path w = (.ok (.map entries), w')) :
    (Value.map <$> readEntries path) w = expansion (.map entries) w' := by
  simp only [Act.map_apply, readEntries, Act.bind_apply, h, expansion]
  rcases noteMissing (.map entries) w' with ⟨_ | _, w''⟩
  · rfl
  · simp [expand, Except.map]

/-- References are replaced in a single pass. There is one way to cut a text at references such that no
reference starts inside a literal. The value that is made has the skeleton of the given one, and its
leaves filled at these cuts, and no other value has. It is made if every name in it is one that a
variable can have, and then the names that are not set and have no fallback are logged, in order;
otherwise the first name that no variable can have ends the expansion, after what was logged before. It
is such an expansion by which the entries of a file are made. -/
theorem expanded_in_one_pass {value : Value} (hfinite : ∀ isMap, .cycle isMap ∉ value.leaves)
    (w : World) :
    (∀ (t : Text) (c : Cuts), c.text = t.glyphs ∧ c.IsExact ↔ c = Cuts.of t) ∧
      (∀ other, other = expand w.env value ↔
        other.skeleton = value.skeleton ∧ other.leaves = value.leaves.map (fillLeaf w.env)) ∧
      ((∀ r ∈ references value, r.IsEncodable) →
        expansion value w =
          (.ok (expand w.env value), afterMissing w (missingNames w.env (references value)))) ∧
      (∀ before r after, references value = before ++ r :: after →
        (∀ r ∈ before, r.IsEncodable) → ¬ r.IsEncodable →
        expansion value w = (.error .notEncodable, afterMissing w (missingNames w.env before))) ∧
      ∀ path entries w₀, value = .map entries → readDocument path w₀ = (.ok value, w) →
        (Value.map <$> readEntries path) w₀ = expansion value w := by
  refine ⟨fun t c => Cuts.eq_of_iff, fun other => eq_expand_iff w.env,
    expansion_of_isEncodable hfinite w, ?_, ?_⟩
  · intro before r after hsplit hbefore hr
    exact expansion_of_not_isEncodable hfinite w hsplit hbefore hr
  · rintro path entries w₀ rfl hread
    exact map_readEntries hread

theorem isProper_of_isNameGlyph {name : Text}
    (h : name.glyphs ≠ [] ∧ ∀ g ∈ name.glyphs, Reference.isNameGlyph g = true) :
    Reference.IsProper ⟨name, none⟩ where
  named := h.1
  name := fun g hg => Reference.isNameGlyph_iff.mp (h.2 g hg)
  fallback := nofun

/-- One variable, whose value looks like a reference to it. -/
def echoWorld : World where
  files := { tree := ⟨[]⟩, cwd := [] }
  env := [("A", "$\x7bA\x7d")]

/-- References to this variable and to one that is not set, and a leaf that is no text. -/
def echoValue : Value := .list [.text "$\x7bA\x7d$\x7bB\x7d", .int 1]

theorem cuts_echoValue :
    Cuts.of "$\x7bA\x7d$\x7bB\x7d" = .more [] ⟨"A", none⟩ (.more [] ⟨"B", none⟩ (.last [])) := by
  have hfirst : Reference.IsProper ⟨"A", none⟩ := isProper_of_isNameGlyph (by decide)
  have hsecond : Reference.IsProper ⟨"B", none⟩ := isProper_of_isNameGlyph (by decide)
  have hexact : Cuts.IsExact (.more [] ⟨"A", none⟩ (.more [] ⟨"B", none⟩ (.last []))) :=
    ⟨Cuts.isSilent_nil _, hfirst, Cuts.isSilent_nil _, hsecond, Cuts.isSilent_nil _⟩
  exact (Cuts.eq_of_iff.mp ⟨by decide, hexact⟩).symm

/-- The value of the variable is not looked at again, and the other variable is missed. -/
theorem expanded_in_one_pass_echoValue :
    (∀ isMap, .cycle isMap ∉ echoValue.leaves) ∧ (∀ r ∈ references echoValue, r.IsEncodable) ∧
      expansion echoValue echoWorld =
        (.ok (.list [.text "$\x7bA\x7d", .int 1]), afterMissing echoWorld ["B"]) := by
  have hfinite : ∀ isMap, .cycle isMap ∉ echoValue.leaves := by
    intro isMap
    simp [echoValue, Value.leaves, Value.leavesOfItems]
  have hreferences : references echoValue = [⟨"A", none⟩, ⟨"B", none⟩] := by
    simp [echoValue, references, Value.leaves, Value.leavesOfItems, referencesOfLeaf,
      cuts_echoValue, Cuts.references]
  have hencodable : ∀ r ∈ references echoValue, r.IsEncodable := by
    intro r hr
    rw [hreferences, List.mem_cons, List.mem_singleton] at hr
    obtain rfl | rfl := hr
    · decide +kernel
    · decide +kernel
  have hmissing : missingNames echoWorld.env [⟨"A", none⟩, ⟨"B", none⟩] = [Text.ofString "B"] := by
    decide +kernel
  have hset : Reference.value echoWorld.env ⟨"A", none⟩ = "$\x7bA\x7d" := by decide +kernel
  have hunset : Reference.value echoWorld.env ⟨"B", none⟩ = "" := by decide +kernel
  obtain ⟨_, hmade, hexpanded, _⟩ := expanded_in_one_pass hfinite echoWorld
  have hvalue : .list [.text "$\x7bA\x7d", .int 1] = expand echoWorld.env echoValue := by
    refine (hmade _).mpr ⟨rfl, ?_⟩
    simp [echoValue, Value.leaves, Value.leavesOfItems, fillLeaf, cuts_echoValue, Cuts.fill, hset,
      hunset]
    decide
  exact ⟨hfinite, hencodable, by rw [hexpanded hencodable, ← hvalue, hreferences, hmissing]⟩

/-- A reference whose name is a lone surrogate, which stands for no byte. It has a fallback. -/
def surrogateReference : Reference := ⟨⟨[.surrogate 0]⟩, some "d"⟩

/-- Not every value is expanded: no variable can have such a name, and looking for it fails. -/
theorem expansion_not_total :
    (∀ isMap, .cycle isMap ∉ (Value.text ⟨surrogateReference.written⟩).leaves) ∧
      ∀ w, expansion (.text ⟨surrogateReference.written⟩) w = (.error .notEncodable, w) := by
  have hfinite : ∀ isMap, .cycle isMap ∉ (Value.text ⟨surrogateReference.written⟩).leaves := by
    intro isMap
    simp [Value.leaves]
  have hproper : surrogateReference.IsProper := by
    refine ⟨by decide, by decide, fun t ht => ?_⟩
    have hfallback : t = "d" := (Option.some.inj ht).symm
    rw [hfallback]
    decide
  have hexact : Cuts.IsExact (.more [] surrogateReference (.last [])) :=
    ⟨Cuts.isSilent_nil _, hproper, Cuts.isSilent_nil _⟩
  have hcuts : .more [] surrogateReference (.last []) = Cuts.of ⟨surrogateReference.written⟩ :=
    Cuts.eq_of_iff.mp ⟨List.append_nil _, hexact⟩
  have hreferences : references (.text ⟨surrogateReference.written⟩) = [] ++ [surrogateReference] := by
    simp [references, Value.leaves, referencesOfLeaf, ← hcuts, Cuts.references]
  have hbefore : ∀ r ∈ ([] : List Reference), r.IsEncodable := by
    intro r hr
    cases hr
  refine ⟨hfinite, fun w => ?_⟩
  rw [expansion_of_not_isEncodable hfinite w hreferences hbefore (by decide)]
  simp [afterMissing, missingNames]

end Config

end ScanLauncher

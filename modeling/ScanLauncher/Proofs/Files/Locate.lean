import Mathlib
import ScanLauncher.Proofs.Config.Setting
import ScanLauncher.Proofs.Files.Walk
import ScanLauncher.Proofs.Text.Bytes

namespace ScanLauncher

/-- What a text is cut at is in none of its parts. -/
theorem Text.not_mem_of_mem_splitOn {t part : Text} {divider : Glyph}
    (hpart : part ∈ t.splitOn divider) : divider ∉ part.glyphs := by
  obtain ⟨glyphs, hglyphs, rfl⟩ := List.mem_map.mp hpart
  clear hpart
  generalize t.glyphs = whole at hglyphs
  induction whole generalizing glyphs with
  | nil => simp_all
  | cons g rest ih =>
    rw [List.splitOn_cons_eq_if_modifyHead] at hglyphs
    split at hglyphs
    · rcases List.mem_cons.mp hglyphs with rfl | hglyphs
      · exact List.not_mem_nil
      · exact ih glyphs hglyphs
    · rename_i hother
      cases hrest : rest.splitOn divider with
      | nil => simp [hrest] at hglyphs
      | cons first others =>
        rw [hrest, List.modifyHead_cons] at hglyphs
        rw [hrest] at ih
        rcases List.mem_cons.mp hglyphs with rfl | hglyphs
        · have hfirst := ih first (.head others)
          have hne : divider ≠ g := fun h => hother (by simp [h])
          simp [hne, hfirst]
        · exact ih glyphs (.tail first hglyphs)

namespace Config

/-- A name stays a name when its bytes are read again. -/
theorem isComponent_ofBytes {name : Text} (hname : isComponent name = true) {bytes : List UInt8}
    (hbytes : name.toBytes? = some bytes) : isComponent (.ofBytes bytes) = true := by
  obtain ⟨hempty, hslash, hdot, hdots⟩ := isComponent_iff.mp hname
  have hne (s : String) (hs : ∀ c ∈ s.toList, c ≠ '\x00' ∧ c.toNat < 0x80) (h : name ≠ s) :
      Text.ofBytes bytes ≠ s :=
    fun hsame => h (Text.eq_of_ofBytes_eq s.toList hs hbytes hsame)
  refine isComponent_iff.mpr ⟨hne "" (by simp) hempty, fun hmem => hslash ?_,
    hne "." (by simp) hdot, hne ".." (by simp) hdots⟩
  obtain ⟨b, hb, hvalue⟩ := Text.mem_of_mem_ofBytes (by decide) (by decide) hmem
  have hascii : b < 0x80 := by
    rw [UInt8.lt_iff_toNat_lt, hvalue]
    decide
  have hchar := Text.mem_of_mem_toBytes? hbytes hb hascii
  rwa [hvalue, Char.ofNat_toNat] at hchar

end Config

namespace FileSystem

theorem names_of_no_slash {name : Text} (hname : Glyph.char '/' ∉ name.glyphs) :
    names name = [name] := by
  simp [names, Text.splitOn, List.splitOn_eq_singleton hname]

/-- The names of a text that count. -/
def steps (base : Text) : List Text := (base.splitOn '/').filter (!·.isEmpty)

theorem names_append_slash (base : Text) {name : Text} (hname : Glyph.char '/' ∉ name.glyphs) :
    names (base ++ "/" ++ name) = steps base ++ [name] := by
  have hglyphs : (base ++ "/" ++ name).glyphs = base.glyphs ++ Glyph.char '/' :: name.glyphs := by
    simp only [Text.glyphs_append, List.append_assoc]
    rfl
  have hparts : (base ++ "/" ++ name).splitOn '/' = base.splitOn '/' ++ [name] := by
    simp only [Text.splitOn, hglyphs, List.splitOn_append_cons_self,
      List.splitOn_eq_singleton hname, List.map_append, List.map_cons, List.map_nil]
  simp [names, hparts, steps]

private theorem names_eq_steps (base : Text) :
    names base = steps base ∨ ∃ last : Text, last.isEmpty = true ∧ names base = steps base ++ [last] := by
  have hne : base.splitOn '/' ≠ [] := by simp [Text.splitOn, List.splitOn_ne_nil]
  obtain ⟨front, last, hparts⟩ : ∃ front last, base.splitOn '/' = front ++ [last] :=
    ⟨_, _, (List.dropLast_concat_getLast hne).symm⟩
  cases hlast : last.isEmpty with
  | true => exact .inr ⟨last, hlast, by simp [names, steps, hparts, hlast]⟩
  | false => exact .inl (by simp [names, steps, hparts, hlast])

theorem byteSize_le_append {a b : Text} {bytes : List UInt8} (h : (a ++ b).toBytes? = some bytes) :
    byteSize a ≤ byteSize (a ++ b) := by
  obtain ⟨xs, ys, ha, _, rfl⟩ := Text.toBytes?_append.mp h
  simp [byteSize, h, ha]

theorem systemText_eq_ok {path text : Text} :
    systemText path = .ok text ↔
      ∃ bytes, path.toBytes? = some bytes ∧ bytes.contains 0 = false ∧ text = .ofBytes bytes := by
  unfold systemText
  cases path.toBytes? with
  | none => simp
  | some bytes => by_cases hnul : 0 ∈ bytes <;> simp [hnul, eq_comm]

/-- What the system makes of a path behind which a name stands. -/
theorem systemText_append_name {base name text : Text} (hname : Config.isComponent name = true)
    (h : systemText (base ++ "/" ++ name) = .ok text) :
    ∃ base' name', systemText base = .ok base' ∧ Config.isComponent name' = true ∧
      text = base' ++ "/" ++ name' ∧ byteSize base' ≤ byteSize text := by
  obtain ⟨bytes, hbytes, hnul, rfl⟩ := systemText_eq_ok.mp h
  obtain ⟨_, ys, hfront, hys, rfl⟩ := Text.toBytes?_append.mp hbytes
  obtain ⟨xs, zs, hxs, hzs, rfl⟩ := Text.toBytes?_append.mp hfront
  obtain rfl : [0x2F] = zs := Option.some.inj (hzs ▸ rfl)
  have hnul' : xs.contains 0 = false := by
    simp at hnul ⊢
    exact hnul.1
  have htext : Text.ofBytes (xs ++ [0x2F] ++ ys) = .ofBytes xs ++ "/" ++ .ofBytes ys := by
    rw [List.append_assoc]
    exact Text.ofBytes_append_slash xs ys
  refine ⟨.ofBytes xs, .ofBytes ys, systemText_eq_ok.mpr ⟨xs, hxs, hnul', rfl⟩,
    Config.isComponent_ofBytes hname hys, htext, ?_⟩
  obtain ⟨out, hout⟩ := Text.exists_toBytes?_ofBytes (xs ++ [0x2F] ++ ys)
  rw [htext] at hout ⊢
  obtain ⟨front, _, hfront, _⟩ := Text.toBytes?_append.mp hout
  exact Nat.le_trans (byteSize_le_append hfront) (byteSize_le_append hout)

theorem locate_eq_ok {fs : FileSystem} {follow : Bool} {path : Text} {loc : Location} :
    fs.locate follow path = .ok loc ↔ ∃ text, systemText path = .ok text ∧ text.isEmpty = false ∧
      byteSize text < pathLimit ∧
      walk fs.tree follow linkLimit (start fs.cwd text) (names text) = .ok loc := by
  unfold locate
  cases systemText path with
  | error fault => simp [bind, Except.bind]
  | ok text =>
    cases hempty : text.isEmpty with
    | true => simp [bind, Except.bind, hempty]
    | false =>
      by_cases hlong : byteSize text ≥ pathLimit
      · simp [bind, Except.bind, hempty, hlong, Nat.not_lt.mpr hlong]
      · have hshort : byteSize text < pathLimit := Nat.lt_of_not_ge hlong
        cases hwalk : walk fs.tree follow linkLimit (start fs.cwd text) (names text) <;>
          simp [bind, Except.bind, hempty, hlong, hshort, hwalk, Except.mapError]

theorem isOrdinary_of_isComponent {name : Text} (hname : Config.isComponent name = true) :
    ¬ (name.isEmpty || name == dot) = true ∧ ¬ (name == doubleDot) = true := by
  obtain ⟨hempty, _, hdot, hdots⟩ := Config.isComponent_iff.mp hname
  have hnonempty : name.isEmpty = false := by
    obtain ⟨glyphs⟩ := name
    cases glyphs with
    | nil => exact absurd rfl hempty
    | cons => rfl
  simp [hnonempty, dot, doubleDot, hdot, hdots]

private theorem start_of_no_slash (cwd : Location) {name : Text} (hname : Glyph.char '/' ∉ name.glyphs) :
    start cwd name = cwd := by
  refine if_neg fun hslash => hname ?_
  exact (List.isPrefixOf_iff_prefix.mp hslash).subset (.head [])

private theorem start_append_slash (cwd : Location) {base : Text} (hbase : base.isEmpty = false)
    (name : Text) : start cwd (base ++ "/" ++ name) = start cwd base := by
  obtain ⟨glyphs⟩ := base
  cases glyphs with
  | nil => cases hbase
  | cons g gs => rfl

/-- How the system cuts the path of an entry and that of its directory: both start at the same place
and have the same steps, behind which stands the name of the entry or nothing that counts. -/
structure Spells (base path : Text) (steps : List Text) (name : Text) : Prop where
  start_eq : ∀ cwd, start cwd path = start cwd base
  names_path : names path = steps ++ [name]
  isComponent : Config.isComponent name = true
  names_base : names base = steps ∨
    ∃ last : Text, (last.isEmpty || last == dot) = true ∧ names base = steps ++ [last]
  isEmpty_base : base.isEmpty = false
  size_base : byteSize path < pathLimit → byteSize base < pathLimit

private theorem Spells.isEmpty_path {base path name : Text} {steps : List Text}
    (h : Spells base path steps name) : path.isEmpty = false := by
  refine eq_false_of_ne_true fun hempty => ?_
  have hpath : path = "" := congrArg Text.mk (List.isEmpty_iff.mp hempty)
  have hnames := h.names_path
  rw [hpath, names_of_no_slash (by decide)] at hnames
  have hname : "" = name := by simpa using congrArg List.getLast? hnames
  exact (Config.isComponent_iff.mp h.isComponent).1 hname.symm

private theorem spells_append_name {base name text : Text} (hbase : base ≠ "")
    (hname : Config.isComponent name = true)
    (h : systemText (base ++ "/" ++ name) = .ok text) :
    ∃ base' steps name', systemText base = .ok base' ∧ Spells base' text steps name' := by
  obtain ⟨base', name', hsystem, hname', rfl, hle⟩ := systemText_append_name hname h
  obtain ⟨_, hslash, _⟩ := Config.isComponent_iff.mp hname'
  have hempty : base'.isEmpty = false := by
    obtain ⟨bytes, hbytes, _, rfl⟩ := systemText_eq_ok.mp hsystem
    refine eq_false_of_ne_true fun hnone => hbase ?_
    exact Text.eq_of_ofBytes_eq [] (by simp) hbytes
      (congrArg Text.mk (List.isEmpty_iff.mp hnone))
  refine ⟨base', steps base', name', hsystem, fun cwd => start_append_slash cwd hempty name',
    names_append_slash base' hslash, hname', ?_, hempty, fun hsize => Nat.lt_of_le_of_lt hle hsize⟩
  rcases names_eq_steps base' with hnames | ⟨last, hlast, hnames⟩
  · exact .inl hnames
  · exact .inr ⟨last, by simp [hlast], hnames⟩

/-- A name behind slashes alone. -/
theorem spells_slash_name {front name text : Text} (hfront : front = "" ∨ front = "/")
    (hname : Config.isComponent name = true) (h : systemText (front ++ "/" ++ name) = .ok text) :
    ∃ base' steps name', systemText (front ++ "/") = .ok base' ∧ Spells base' text steps name' := by
  obtain ⟨front', name', hsystem, hname', rfl, _⟩ := systemText_append_name hname h
  obtain ⟨_, hslash, _⟩ := Config.isComponent_iff.mp hname'
  have hnames := names_append_slash front' hslash
  rcases hfront with rfl | rfl
  · have hsame : systemText "" = .ok "" := by cbv
    obtain rfl := Except.ok.inj (hsame.symm.trans hsystem)
    exact ⟨"/", [], name', by cbv, fun _ => rfl, hnames, hname', .inr ⟨"", rfl, by cbv⟩, rfl,
      fun _ => by cbv⟩
  · have hsame : systemText "/" = .ok "/" := by cbv
    obtain rfl := Except.ok.inj (hsame.symm.trans hsystem)
    exact ⟨"//", [], name', by cbv, fun _ => rfl, hnames, hname', .inr ⟨"", rfl, by cbv⟩, rfl,
      fun _ => by cbv⟩

end FileSystem

namespace Path

/-- A path is another one with one name behind it, which is a name of its own. -/
def IsEntryOf (path base : Path) : Prop :=
  ∃ name, Config.isComponent name = true ∧ path = ⟨base.anchor, base.parts ++ [name]⟩

/-- The parts of a path are no empty texts. -/
def IsProper (path : Path) : Prop := ∀ part ∈ path.parts, part.isEmpty = false

theorem isProper_ofText (t : Text) : (ofText t).IsProper := by
  intro part hpart
  have hkept := (List.mem_filter.mp hpart).2
  simp only [Bool.and_eq_true, Bool.not_eq_true'] at hkept
  exact hkept.1

private theorem intercalate_concat {parts : List Text} (hparts : parts ≠ []) (name : Text) :
    Text.intercalate "/" (parts ++ [name]) = Text.intercalate "/" parts ++ "/" ++ name := by
  refine congrArg Text.mk ?_
  induction parts with
  | nil => exact absurd rfl hparts
  | cons part rest ih =>
    cases rest with
    | nil => simp [Text.intercalate]
    | cons next rest =>
      have hrest := ih (List.cons_ne_nil next rest)
      simp only [List.cons_append, List.map_cons, Text.intercalate, List.intercalate_cons_cons,
        Text.glyphs_append] at hrest ⊢
      rw [hrest]
      simp only [List.append_assoc]

theorem text_of_parts {path : Path} (hparts : path.parts ≠ []) :
    path.text = path.anchor.text ++ Text.intercalate "/" path.parts := by
  unfold text
  rw [if_neg]
  simp [hparts]

theorem text_singleton (anchor : Anchor) (name : Text) :
    (⟨anchor, [] ++ [name]⟩ : Path).text = anchor.text ++ name := by
  rw [text_of_parts (by simp)]
  simp [Text.intercalate]

theorem text_concat {path : Path} (hparts : path.parts ≠ []) (name : Text) :
    (⟨path.anchor, path.parts ++ [name]⟩ : Path).text = path.text ++ "/" ++ name := by
  rw [text_of_parts hparts, text_of_parts (by simp), intercalate_concat hparts]
  refine congrArg Text.mk ?_
  simp only [Text.glyphs_append, List.append_assoc]

private theorem text_ne_empty {path : Path} (hproper : path.IsProper) : path.text ≠ "" := by
  obtain ⟨anchor, parts⟩ := path
  intro hnone
  cases parts with
  | nil => cases anchor <;> cases hnone
  | cons part rest =>
    rw [text_of_parts (List.cons_ne_nil part rest)] at hnone
    have hglyphs : (Text.intercalate "/" (part :: rest)).glyphs = [] :=
      (List.append_eq_nil_iff.mp (congrArg Text.glyphs hnone)).2
    have hpart : part.glyphs = [] := by
      cases rest with
      | nil => simpa [Text.intercalate] using hglyphs
      | cons next rest =>
        simp only [Text.intercalate, List.map_cons, List.intercalate_cons_cons, List.append_assoc,
          List.append_eq_nil_iff] at hglyphs
        exact hglyphs.1
    have hfalse := hproper part (.head rest)
    simp [Text.isEmpty, hpart] at hfalse

private theorem IsEntryOf.spells {path base : Path} (hentry : path.IsEntryOf base) (hbase : base.IsProper)
    {text : Text} (h : FileSystem.systemText path.text = .ok text) :
    ∃ base' steps name, FileSystem.systemText base.text = .ok base' ∧
      FileSystem.Spells base' text steps name := by
  obtain ⟨name, hname, rfl⟩ := hentry
  obtain ⟨anchor, parts⟩ := base
  cases parts with
  | cons part rest =>
    rw [text_concat (List.cons_ne_nil part rest)] at h
    exact FileSystem.spells_append_name (text_ne_empty hbase) hname h
  | nil =>
    rw [text_singleton] at h
    cases anchor with
    | relative =>
      obtain ⟨bytes, hbytes, _, rfl⟩ := FileSystem.systemText_eq_ok.mp h
      have hname' := Config.isComponent_ofBytes hname hbytes
      obtain ⟨_, hslash, _⟩ := Config.isComponent_iff.mp hname'
      refine ⟨".", [], _, by cbv, fun cwd => FileSystem.start_of_no_slash cwd hslash,
        FileSystem.names_of_no_slash hslash, hname', .inr ⟨".", rfl, by cbv⟩, rfl, fun _ => by cbv⟩
    | root =>
      have htext : (Anchor.root.text : Text) ++ name = "" ++ "/" ++ name := rfl
      rw [htext] at h
      exact FileSystem.spells_slash_name (.inl rfl) hname h
    | doubleRoot =>
      have htext : (Anchor.doubleRoot.text : Text) ++ name = "/" ++ "/" ++ name := rfl
      rw [htext] at h
      exact FileSystem.spells_slash_name (.inr rfl) hname h

/-- The path of an entry leads nowhere, whatever the files are, or to one name in the directory that
the other path leads to. -/
theorem IsEntryOf.locate_iff {path base : Path} (hentry : path.IsEntryOf base)
    (hbase : base.IsProper) :
    (∀ (fs : FileSystem) (loc : Location), fs.locate false path.text ≠ .ok loc) ∨
      ∃ name, ∀ (fs : FileSystem) (loc : Location), fs.locate false path.text = .ok loc ↔
        ∃ place, fs.locate true base.text = .ok place ∧ fs.tree.get? place = some .directory ∧
          loc = place ++ [name] := by
  -- What the system makes of the texts does not depend on the files.
  by_cases hspelled : ∃ text base' steps name, FileSystem.systemText path.text = .ok text ∧
      FileSystem.systemText base.text = .ok base' ∧ FileSystem.Spells base' text steps name ∧
      FileSystem.byteSize text < FileSystem.pathLimit ∧
      FileSystem.byteSize name ≤ FileSystem.nameLimit
  · obtain ⟨text, base', steps, name, hsystem, hsystem', hspells, hsize, hshort⟩ := hspelled
    obtain ⟨hdot, hdots⟩ := FileSystem.isOrdinary_of_isComponent hspells.isComponent
    have hbase' (fs : FileSystem) (place : Location) : fs.locate true base.text = .ok place ∧
        fs.tree.get? place = some .directory ↔
          FileSystem.walk fs.tree true FileSystem.linkLimit (FileSystem.start fs.cwd text) steps =
            .ok place ∧ fs.tree.get? place = some .directory := by
      simp only [FileSystem.locate_eq_ok, hsystem', Except.ok.injEq, exists_eq_left',
        hspells.isEmpty_base, hspells.size_base hsize, true_and, hspells.start_eq]
      rcases hspells.names_base with hnames | ⟨last, hlast, hnames⟩
      · rw [hnames]
      · rw [hnames, FileSystem.walk_append_idle_iff hlast, and_assoc, and_self]
    refine .inr ⟨name, fun fs loc => ?_⟩
    rw [FileSystem.locate_eq_ok]
    simp only [hsystem, Except.ok.injEq, exists_eq_left', hspells.isEmpty_path, hsize, true_and,
      hspells.names_path, FileSystem.walk_append_name_iff steps hdot hdots, hshort]
    refine exists_congr fun place => ?_
    rw [← and_assoc, ← and_assoc, hbase']
  · refine .inl fun fs loc h => hspelled ?_
    obtain ⟨text, hsystem, _, hsize, hwalk⟩ := FileSystem.locate_eq_ok.mp h
    obtain ⟨base', steps, name, hsystem', hspells⟩ := hentry.spells hbase hsystem
    obtain ⟨hdot, hdots⟩ := FileSystem.isOrdinary_of_isComponent hspells.isComponent
    rw [hspells.names_path, FileSystem.walk_append_name_iff steps hdot hdots] at hwalk
    exact ⟨text, base', steps, name, hsystem, hsystem', hspells, hsize, hwalk.1⟩

/-- Whatever is behind the name, an entry of a path lies directly in the directory that the path leads
to. -/
theorem IsEntryOf.locate {path base : Path} (hentry : path.IsEntryOf base) (hbase : base.IsProper)
    {fs : FileSystem} {loc : Location} (h : fs.locate false path.text = .ok loc) :
    ∃ place name, fs.locate true base.text = .ok place ∧ loc = place ++ [name] := by
  rcases hentry.locate_iff hbase with hnowhere | ⟨name, hiff⟩
  · exact absurd h (hnowhere fs loc)
  · obtain ⟨place, hplace, _, hloc⟩ := (hiff fs loc).mp h
    exact ⟨place, name, hplace, hloc⟩

end Path

end ScanLauncher

import ScanLauncher.Proofs.Action
import ScanLauncher.Proofs.Value.Tidy
import ScanLauncher.Yaml.Document

namespace ScanLauncher.Yaml

private theorem isMapping_readFloat {text : Text} {label : Nat} {value : Value}
    (h : readFloat text label = .ok value) : value.isMapping = false := by
  unfold readFloat at h
  dsimp only at h
  split at h
  · cases h
  split at h
  · obtain rfl := Except.ok.inj h
    rfl
  -- However the magnitude is read, a float is made of it.
  have hfloat {reading : Except Fault Binary64} {make : Binary64 → Binary64}
      (h : (reading >>= fun magnitude => pure (Value.float (make magnitude) label)) = .ok value) :
      value.isMapping = false := by
    obtain ⟨magnitude, _, h⟩ := Except.exists_of_bind h
    obtain rfl := Except.ok.inj h
    rfl
  split at h
  · exact hfloat h
  split at h
  · obtain ⟨places, _, h⟩ := Except.exists_of_bind h
    exact hfloat h
  · exact hfloat h

private theorem isMapping_readTimestamp {text : Text} {value : Value} (h : readTimestamp text = .ok value) :
    value.isMapping = false := by
  unfold readTimestamp at h
  split at h
  · cases h
  dsimp only at h
  split at h
  all_goals
    split at h
    · obtain rfl := Except.ok.inj h
      rfl
    · cases h

theorem isMapping_of_map {α : Type} {make : α → Value} {reading : Except Fault α} {value : Value}
    (h : reading.map make = .ok value) (hmake : ∀ a, (make a).isMapping = false) : value.isMapping = false := by
  cases reading with
  | error fault => cases h
  | ok a =>
    obtain rfl := Except.ok.inj h
    exact hmake a

/-- No value of a node's own is a mapping. -/
def IsPlain (made : Array (Option Made)) : Prop := ∀ value, some (.leaf value) ∈ made → value.isMapping = false

namespace Maker

variable {α β : Type} {good : α → Prop} {fine : β → Prop}

/-- A step keeps the values of nodes plain, and its result is good. -/
def Ensures (act : Maker α) (good : α → Prop) : Prop :=
  ∀ m a m', IsPlain m.made → act m = .ok (a, m') → good a ∧ IsPlain m'.made

/-- A step keeps the values of nodes plain. -/
def Keeps (act : Maker α) : Prop := act.Ensures fun _ => True

theorem ensures_pure {a : α} (h : good a) : (pure a : Maker α).Ensures good := by
  rintro m _ _ hplain ⟨⟩
  exact ⟨h, hplain⟩

theorem keeps_pure (a : α) : (pure a : Maker α).Keeps := ensures_pure trivial

theorem ensures_fail (fault : Fault) : (fail fault : Maker α).Ensures good := nofun

theorem Ensures.bind {act : Maker α} {next : α → Maker β} (hact : act.Ensures good)
    (hnext : ∀ a, good a → (next a).Ensures fine) : (act >>= next).Ensures fine := by
  intro m b m' hplain h
  obtain ⟨⟨a, m₁⟩, hfirst, hsecond⟩ := Except.exists_of_bind h
  obtain ⟨ha, hplain⟩ := hact m a m₁ hplain hfirst
  exact hnext a ha m₁ b m' hplain hsecond

theorem Keeps.bind {act : Maker α} {next : α → Maker β} (hact : act.Keeps)
    (hnext : ∀ a, (next a).Ensures fine) : (act >>= next).Ensures fine :=
  Ensures.bind hact fun a _ => hnext a

theorem keeps_get : (get : Maker Making).Keeps := by
  rintro m _ _ hplain ⟨⟩
  exact ⟨trivial, hplain⟩

theorem keeps_modify {f : Making → Making} (hf : ∀ m, IsPlain m.made → IsPlain (f m).made) :
    (modify f : Maker Unit).Keeps := by
  rintro m _ _ hplain ⟨⟩
  exact ⟨trivial, hf m hplain⟩

theorem keeps_mapM {act : α → Maker β} (hact : ∀ a, (act a).Keeps) (items : List α) :
    (items.mapM act).Keeps := by
  induction items with
  | nil => exact keeps_pure []
  | cons item rest ih =>
    rw [List.mapM_cons]
    exact (hact item).bind fun _ => ih.bind fun _ => keeps_pure _

theorem keeps_forM {act : α → Maker PUnit} (hact : ∀ a, (act a).Keeps) (items : List α) :
    (items.forM act).Keeps := by
  induction items with
  | nil => exact keeps_pure ()
  | cons item rest ih => exact (hact item).bind fun _ => ih

private theorem keeps_findM? {act : α → Maker Bool} (hact : ∀ a, (act a).Keeps) (items : List α) :
    (items.findM? act).Keeps := by
  induction items with
  | nil => exact keeps_pure none
  | cons item rest ih =>
    refine (hact item).bind fun found => ?_
    cases found with
    | true => exact keeps_pure _
    | false => exact ih

theorem keeps_node (id : NodeId) : (node id).Keeps := keeps_get.bind fun _ => keeps_pure _

theorem keeps_modifyNode (id : NodeId) (f : Node → Node) : (modifyNode id f).Keeps :=
  keeps_modify fun _ h => h

theorem keeps_entries (id : NodeId) : (entries id).Keeps := by
  refine (keeps_node id).bind fun n => ?_
  split <;> exact keeps_pure _

theorem keeps_setEntries (id : NodeId) (all : List (NodeId × NodeId)) : (setEntries id all).Keeps :=
  keeps_modifyNode id _

private theorem keeps_mergeFrom {merge : NodeId → Maker (List (NodeId × NodeId))}
    (hmerge : ∀ value, (merge value).Keeps) (id : NodeId) (steps index : Nat)
    (merged : List (NodeId × NodeId)) : (mergeFrom merge id steps index merged).Keeps := by
  have hlast (merged : List (NodeId × NodeId)) :
      Keeps (do setEntries id (merged ++ (← entries id))) :=
    (keeps_entries id).bind fun _ => keeps_setEntries id _
  induction steps generalizing index merged with
  | zero => exact hlast merged
  | succ steps ih =>
    refine (keeps_entries id).bind fun all => ?_
    split
    · exact hlast merged
    · refine (keeps_node _).bind fun n => ?_
      dsimp only
      split
      · exact (keeps_entries id).bind fun _ => (keeps_setEntries id _).bind fun _ =>
          (hmerge _).bind fun _ => ih index _
      · split
        · exact (keeps_modifyNode _ _).bind fun _ => ih (index + 1) merged
        · exact ih (index + 1) merged

/-- The entries of a mapping, after its own merges were carried out. -/
theorem keeps_mapping {flatten : NodeId → Maker Unit} (hflatten : ∀ id, (flatten id).Keeps)
    (id : NodeId) : Keeps (do
      match (← node id).content with
      | .mapping _ =>
        flatten id
        entries id
      | _ => fail .malformed) := by
  refine (keeps_node id).bind fun n => ?_
  split
  · exact (hflatten id).bind fun _ => keeps_entries id
  · exact ensures_fail _

private theorem keeps_flatten (depth : Nat) (id : NodeId) : (flatten depth id).Keeps := by
  induction depth generalizing id with
  | zero => exact ensures_fail _
  | succ depth ih =>
    refine (keeps_entries id).bind fun all => keeps_mergeFrom (fun value => ?_) id _ _ _
    refine (keeps_node value).bind fun n => ?_
    split
    · exact (keeps_mapM (keeps_mapping ih) _).bind fun _ => keeps_pure _
    · exact keeps_mapping ih value

private theorem keeps_scalarText (depth : Nat) (id : NodeId) : (scalarText depth id).Keeps := by
  induction depth generalizing id with
  | zero => exact ensures_fail _
  | succ depth ih =>
    refine (keeps_node id).bind fun n => ?_
    split
    · exact keeps_pure _
    · exact ensures_fail _
    · have hdefault (entry : NodeId × NodeId) : Keeps (do
          return (← node entry.1).tag == ScalarKind.default.tag) :=
        (keeps_node entry.1).bind fun _ => keeps_pure _
      refine (keeps_findM? hdefault _).bind fun found => ?_
      split
      · exact ih _
      · exact ensures_fail _

private theorem ensures_leafValue (construction : Construction) (id : NodeId) :
    (leafValue construction id).Ensures fun value => value.isMapping = false := by
  refine Keeps.bind (keeps_get.bind fun _ => keeps_pure _) fun depth =>
    (keeps_scalarText depth id).bind fun text => (keeps_node id).bind fun n => ?_
  split
  · exact ensures_fail _
  · rename_i value hreading _
    refine ensures_pure ?_
    split at hreading
    · obtain rfl := Except.ok.inj hreading
      rfl
    · exact isMapping_of_map hreading fun _ => rfl
    · exact isMapping_of_map hreading fun _ => rfl
    · exact isMapping_readFloat hreading
    · exact isMapping_readTimestamp hreading
    · exact isMapping_of_map hreading fun _ => rfl
    · obtain rfl := Except.ok.inj hreading
      rfl
  · exact ensures_fail _

theorem keeps_record (id : NodeId) (made : Made) (h : ∀ value, made = .leaf value → value.isMapping = false) :
    (record id made).Keeps := by
  refine keeps_modify fun m hplain value hvalue => ?_
  rcases Array.mem_or_eq_of_mem_setIfInBounds hvalue with hold | hnew
  · exact hplain value hold
  · exact h value (Option.some.inj hnew).symm

theorem keeps_made? (id : NodeId) : (made? id).Keeps := keeps_get.bind fun _ => keeps_pure _

theorem keeps_make (id : NodeId) : (make id).Keeps := by
  refine (keeps_made? id).bind fun made => ?_
  split
  · refine (keeps_node id).bind fun n => ?_
    split
    · exact ensures_fail _
    · split
      · exact (keeps_record id (.waiting _) nofun).bind fun _ => keeps_modify fun _ h => h
      · refine (ensures_leafValue _ id).bind fun value hvalue => keeps_record id _ ?_
        rintro _ ⟨⟩
        exact hvalue
  · exact keeps_pure _

theorem keeps_makeEntries (id : NodeId) : (makeEntries id).Keeps := by
  refine (keeps_node id).bind fun n => ?_
  split
  · refine Keeps.bind (keeps_get.bind fun _ => keeps_pure _) fun depth =>
      (keeps_flatten depth id).bind fun _ => (keeps_entries id).bind fun all =>
        Keeps.bind (keeps_forM (fun entry => ?_) all) fun _ => keeps_pure all
    refine (keeps_make entry.1).bind fun _ => (keeps_made? entry.1).bind fun made => ?_
    split
    · exact keeps_make entry.2
    · exact ensures_fail _
  · exact ensures_fail _

private theorem keeps_makePair (id : NodeId) : (makePair id).Keeps := by
  refine (keeps_node id).bind fun n => ?_
  split
  · exact (keeps_make _).bind fun _ => (keeps_make _).bind fun _ => keeps_pure _
  · exact ensures_fail _

private theorem keeps_fillCollection (id : NodeId) : (fillCollection id).Keeps := by
  refine (keeps_made? id).bind fun made => (keeps_node id).bind fun n => ?_
  split
  · exact (keeps_forM keeps_make _).bind fun _ => keeps_record id _ nofun
  · exact (keeps_mapM keeps_makePair _).bind fun _ => keeps_record id _ nofun
  · exact (keeps_makeEntries id).bind fun _ => keeps_record id _ nofun
  · exact (keeps_makeEntries id).bind fun _ => keeps_record id _ nofun
  · exact ensures_fail _

private theorem keeps_fillLevels (fuel : Nat) : (fillLevels fuel).Keeps := by
  induction fuel with
  | zero => exact keeps_pure ()
  | succ fuel ih =>
    refine keeps_get.bind fun m => ?_
    dsimp only
    split
    · exact keeps_pure _
    · refine Keeps.bind (keeps_modify fun _ h => ?_) fun _ =>
        (keeps_forM keeps_fillCollection _).bind fun _ => ih
      exact h

end Maker

section Values

variable {α β : Type} {good : α → Prop} {fine : β → Prop}

/-- The values that are known are tidy. -/
def Known.IsTidy (known : Known) : Prop := ∀ value, some value ∈ known → value.IsTidy

/-- A step over what is known keeps it tidy, and its result is good. -/
def Gives (act : StateM Known α) (good : α → Prop) : Prop :=
  ∀ known : Known, known.IsTidy → good (act known).1 ∧ Known.IsTidy (act known).2

theorem gives_pure {a : α} (h : good a) : Gives (pure a) good := fun _ hknown => ⟨h, hknown⟩

theorem Gives.bind {act : StateM Known α} {next : α → StateM Known β} (hact : Gives act good)
    (hnext : ∀ a, good a → Gives (next a) fine) : Gives (act >>= next) fine := by
  intro known hknown
  obtain ⟨hgood, htidy⟩ := hact known hknown
  exact hnext _ hgood _ htidy

theorem gives_mapM {act : α → StateM Known β} (hact : ∀ a, Gives (act a) fine) (items : List α) :
    Gives (items.mapM act) fun results => ∀ result ∈ results, fine result := by
  induction items with
  | nil => exact gives_pure nofun
  | cons item rest ih =>
    rw [List.mapM_cons]
    refine (hact item).bind fun first hfirst => ih.bind fun others hothers => gives_pure ?_
    rintro result (_ | ⟨_, hresult⟩)
    · exact hfirst
    · exact hothers result hresult

private theorem isTidy_ofPairs {pairs : List (Value × Value)} (h : ∀ pair ∈ pairs, pair.2.IsTidy) :
    (Value.map (Entries.ofPairs pairs)).IsTidy := by
  rintro _ ⟨⟩
  obtain ⟨hnames, hvalues⟩ := Entries.namesOnce_ofPairs pairs
  refine ⟨hnames, fun entry hentry inner hinner => ?_⟩
  obtain ⟨pair, hpair, hsame⟩ := hvalues entry hentry
  exact (h pair hpair inner (hsame.trans hinner)).1

private theorem gives_get : Gives (get : StateM Known Known) Known.IsTidy := fun _ hknown => ⟨hknown, hknown⟩

private theorem gives_keep (id : NodeId) {value : Value} (h : value.IsTidy) :
    Gives (modify fun known => known.setIfInBounds id (some value)) fun _ => True := by
  intro known hknown
  refine ⟨trivial, fun kept hkept => ?_⟩
  rcases Array.mem_or_eq_of_mem_setIfInBounds hkept with hold | hnew
  · exact hknown kept hold
  · exact Option.some.inj hnew ▸ h

/-- A collection is tidy if what fills it is, whether it is written out, kept or neither. -/
theorem gives_collection (path : List NodeId) (id : NodeId) (isMap : Bool)
    {fill : StateM Known (Value × List NodeId)} (hfill : Gives fill fun result => result.1.IsTidy) :
    Gives (do
      if path.count id ≥ cycleLimit then return (.cycle isMap, [id])
      let (value, needed) ← fill
      if path.contains id then return (value, id :: needed)
      let needed := needed.filter (· != id)
      if needed.isEmpty then modify fun known => known.setIfInBounds id (some value)
      return (value, needed)) fun result => result.1.IsTidy := by
  split
  · exact gives_pure (Value.isTidy_of_isMapping rfl)
  refine hfill.bind fun result hresult => ?_
  dsimp only
  split
  · exact gives_pure hresult
  split
  · exact (gives_keep id hresult).bind fun _ _ => gives_pure hresult
  · exact gives_pure hresult

private theorem gives_filled {inside : NodeId → StateM Known (Value × List NodeId)}
    (hinside : ∀ id, Gives (inside id) fun result => result.1.IsTidy)
    (entries : List (NodeId × NodeId)) (assemble : List (Value × Value) → Value)
    (hassemble : ∀ pairs, (∀ pair ∈ pairs, pair.2.IsTidy) → (assemble pairs).IsTidy) :
    Gives (do
      let parts ← entries.mapM fun (key, value) => do
        let (key, first) ← inside key
        let (value, second) ← inside value
        return ((key, value), first ++ second)
      return (assemble (parts.map (·.1)), parts.flatMap (·.2))) fun result => result.1.IsTidy := by
  refine Gives.bind (gives_mapM (fun entry => ?_) entries)
    fun parts (hparts : ∀ part ∈ parts, part.1.2.IsTidy) => gives_pure (hassemble _ ?_)
  · exact (hinside entry.1).bind fun _ _ => (hinside entry.2).bind fun _ hvalue => gives_pure hvalue
  · intro pair hpair
    obtain ⟨part, hpart, rfl⟩ := List.mem_map.mp hpair
    exact hparts part hpart

private theorem gives_valueOf {made : Array (Option Made)} (hmade : IsPlain made) (fuel : Nat)
    (path : List NodeId) (id : NodeId) :
    Gives (valueOf made fuel path id) fun result => result.1.IsTidy := by
  induction fuel generalizing path id with
  | zero => exact gives_pure (Value.isTidy_of_isMapping rfl)
  | succ fuel ih =>
    have hfilled := gives_filled (ih (id :: path))
    refine gives_get.bind fun known hknown => ?_
    dsimp only
    split
    · rename_i value hvalue
      refine gives_pure (hknown value ?_)
      exact Array.mem_of_getElem? (Option.join_eq_some_iff.mp hvalue)
    · rename_i value hvalue _
      refine gives_pure (Value.isTidy_of_isMapping (hmade value ?_))
      exact Array.mem_of_getElem? (Option.join_eq_some_iff.mp hvalue)
    · refine gives_collection path id false ?_
      exact (gives_mapM (ih _) _).bind fun _ _ => gives_pure (Value.isTidy_of_isMapping rfl)
    · exact gives_collection path id true (hfilled _ _ fun _ => isTidy_ofPairs)
    · exact gives_collection path id true
        (hfilled _ (fun pairs => .set ((Entries.ofPairs pairs).map (·.1))) fun _ _ =>
          Value.isTidy_of_isMapping rfl)
    · exact gives_collection path id false
        (hfilled _ (fun pairs => .list (pairs.map fun p => .pair p.1 p.2)) fun _ _ =>
          Value.isTidy_of_isMapping rfl)
    · exact gives_pure (Value.isTidy_of_isMapping rfl)

end Values

/-- A document's value is tidy. -/
theorem isTidy_load {source : Source} {value : Value} (h : load source = .ok value) :
    value.IsTidy := by
  obtain ⟨found, _, h⟩ := Except.exists_of_bind h
  cases found with
  | none =>
    obtain rfl := Except.ok.inj h
    exact Value.isTidy_of_isMapping rfl
  | some document =>
    obtain ⟨⟨_, last⟩, hwork, h⟩ := Except.exists_of_bind h
    obtain rfl := Except.ok.inj h
    have hempty {α : Type} {a : α} (n : Nat) : some a ∉ Array.replicate n (none : Option α) := by
      simp
    have hkeeps := (Maker.keeps_make document.root).bind fun _ =>
      Maker.keeps_fillLevels (document.nodes.size + 1)
    have hplain := (hkeeps _ _ _ (fun value hvalue => absurd hvalue (hempty _)) hwork).2
    exact (gives_valueOf hplain _ _ _ _ fun value hvalue => absurd hvalue (hempty _)).1

end ScanLauncher.Yaml

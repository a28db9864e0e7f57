import ScanLauncher.Proofs.Action

namespace ScanLauncher

/-- Two actions on the world agree along a relation between worlds. -/
def Act.Agree {α : Type} (R : World → World → Prop) (act act' : Act α) : Prop :=
  ∀ w w', R w w' → (act w).1 = (act' w').1 ∧ R (act w).2 (act' w').2

namespace ActOn

variable {σ τ α β : Type}

/-- Two actions agree along a relation between objects in their worlds. -/
def Agree (R : σ → World → σ → World → Prop) (act act' : ActOn σ α) : Prop :=
  ∀ object w object' w', R object w object' w' →
    (act object w).1.1 = (act' object' w').1.1 ∧
      R (act object w).1.2 (act object w).2 (act' object' w').1.2 (act' object' w').2

variable {R : σ → World → σ → World → Prop}

theorem agree_pure (a : α) : Agree R (pure a : ActOn σ α) (pure a) := fun _ _ _ _ h => ⟨rfl, h⟩

theorem agree_throw (failure : Failure) : Agree R (throw failure : ActOn σ α) (throw failure) :=
  fun _ _ _ _ h => ⟨rfl, h⟩

theorem agree_modify {f f' : σ → σ}
    (hf : ∀ object w object' w', R object w object' w' → R (f object) w (f' object') w') :
    Agree R (modify f : ActOn σ Unit) (modify f') :=
  fun object w object' w' h => ⟨rfl, hf object w object' w' h⟩

theorem agree_lift {act act' : Act α}
    (hact : ∀ object object', Act.Agree (fun w w' => R object w object' w') act act') :
    Agree R (lift act : ActOn σ α) (lift act') :=
  fun object w object' w' h => hact object object' w w' h

/-- What follows on an action may rely on what is known of the action's results. -/
theorem Agree.bind_yields {act act' : ActOn σ α} {f f' : α → ActOn σ β} {P : α → Prop}
    (hact : Agree R act act')
    (hP : ∀ object w object' w', R object w object' w' →
      ∀ a, (act object w).1.1 = .ok a → P a)
    (hf : ∀ a, P a → Agree R (f a) (f' a)) : Agree R (act >>= f) (act' >>= f') := by
  intro object w object' w' h
  obtain ⟨hresult, hafter⟩ := hact object w object' w' h
  have hyields := hP object w object' w' h
  rw [bind_apply, bind_apply]
  rcases heq : act object w with ⟨⟨result, next⟩, v⟩
  rcases heq' : act' object' w' with ⟨⟨result', next'⟩, v'⟩
  rw [heq, heq'] at hresult hafter
  rw [heq] at hyields
  obtain rfl : result = result' := hresult
  cases result with
  | ok a => exact hf a (hyields a rfl) next v next' v' hafter
  | error failure => exact ⟨rfl, hafter⟩

theorem Agree.bind {act act' : ActOn σ α} {f f' : α → ActOn σ β} (hact : Agree R act act')
    (hf : ∀ a, Agree R (f a) (f' a)) : Agree R (act >>= f) (act' >>= f') :=
  hact.bind_yields (fun _ _ _ _ _ _ _ => trivial) fun a _ => hf a

/-- What follows on a look at the objects may rely on their being related. -/
theorem agree_bind_get {f f' : σ → ActOn σ α}
    (hf : ∀ object w object' w', R object w object' w' → Agree R (f object) (f' object')) :
    Agree R (get >>= f) (get >>= f') :=
  fun object w object' w' h => hf object w object' w' h object w object' w' h

/-- A first step that may be left out. -/
theorem Agree.optional {c : Prop} [Decidable c] {act act' : ActOn σ Unit} {f f' : Unit → ActOn σ β}
    (hact : Agree R act act') (hf : Agree R (f ()) (f' ())) :
    Agree R (if c then act >>= f else f ()) (if c then act' >>= f' else f' ()) := by
  split
  · exact hact.bind fun _ => hf
  · exact hf

theorem Agree.onFailure {act act' : ActOn σ α} {cleanup cleanup' : ActOn σ Unit}
    (hact : Agree R act act') (hcleanup : Agree R cleanup cleanup') :
    Agree R (act.onFailure cleanup) (act'.onFailure cleanup') := by
  intro object w object' w' h
  obtain ⟨hresult, hafter⟩ := hact object w object' w' h
  rw [onFailure_apply, onFailure_apply]
  rcases heq : act object w with ⟨⟨result, next⟩, v⟩
  rcases heq' : act' object' w' with ⟨⟨result', next'⟩, v'⟩
  rw [heq, heq'] at hresult hafter
  obtain rfl : result = result' := hresult
  cases result with
  | ok a => exact ⟨rfl, hafter⟩
  | error failure =>
    exact (hcleanup.bind fun _ => agree_throw failure) next v next' v' hafter

/-- Actions on parts of the objects, where a relation between the parts is all that counts. -/
theorem Agree.part {S : τ → World → τ → World → Prop} {view view' : σ → τ} {update update' : σ → τ → σ}
    {act act' : ActOn τ α} (hact : Agree S act act')
    (hview : ∀ object w object' w', R object w object' w' → S (view object) w (view' object') w')
    (hupdate : ∀ object w object' w', R object w object' w' → ∀ piece v piece' v',
      S piece v piece' v' → R (update object piece) v (update' object' piece') v') :
    Agree R (part view update act) (part view' update' act') := by
  intro object w object' w' h
  obtain ⟨hresult, hafter⟩ := hact _ w _ w' (hview object w object' w' h)
  exact ⟨hresult, hupdate object w object' w' h _ _ _ _ hafter⟩

end ActOn

end ScanLauncher

import ScanLauncher.World

namespace ScanLauncher

namespace World

/-- A world without files. -/
def bare : World where
  files := { tree := ⟨[]⟩, cwd := [] }

/-- The second world differs from the first in its records only. -/
def RecordsOnly (w w' : World) : Prop := w' = { w with log := w'.log, trace := w'.trace }

theorem RecordsOnly.refl (w : World) : w.RecordsOnly w := rfl

theorem RecordsOnly.trans {w w' w'' : World} (hfirst : w.RecordsOnly w')
    (hsecond : w'.RecordsOnly w'') : w.RecordsOnly w'' := by
  rw [RecordsOnly, hsecond, hfirst]

theorem recordsOnly_note (w : World) (level : LogLevel) (origin : Origin) (message : Text) :
    w.RecordsOnly (w.note level origin message) := rfl

/-- The second world differs from the first in its files and records only. -/
def FilesOnly (w w' : World) : Prop :=
  w' = { w with files := w'.files, log := w'.log, trace := w'.trace }

theorem FilesOnly.refl (w : World) : w.FilesOnly w := rfl

theorem FilesOnly.trans {w w' w'' : World} (hfirst : w.FilesOnly w') (hsecond : w'.FilesOnly w'') :
    w.FilesOnly w'' := by
  rw [FilesOnly, hsecond, hfirst]

theorem RecordsOnly.filesOnly {w w' : World} (h : w.RecordsOnly w') : w.FilesOnly w' := by
  rw [FilesOnly, h]

theorem RecordsOnly.files_eq {w w' : World} (h : w.RecordsOnly w') : w'.files = w.files := by
  rw [h]

theorem RecordsOnly.launches_eq {w w' : World} (h : w.RecordsOnly w') : w'.launches = w.launches := by
  rw [h]

theorem RecordsOnly.gate_eq {w w' : World} (h : w.RecordsOnly w') : w'.gate = w.gate := by
  rw [h]

theorem RecordsOnly.mapGate {w w' : World} (h : w.RecordsOnly w') (f : Gate → Gate) :
    { w with gate := f w.gate }.RecordsOnly { w' with gate := f w'.gate } := by
  rw [RecordsOnly, h]

theorem FilesOnly.gate_eq {w w' : World} (h : w.FilesOnly w') : w'.gate = w.gate := by
  rw [h]

end World

namespace Failure

/-- The system, or the shape of some data, is to blame for a failure: no part of the program raises it
by itself. -/
def IsForeign (failure : Failure) : Prop := failure.message? = none

theorem isForeign_ofPathFault (path : Text) (fault : PathFault) :
    (ofPathFault path fault).IsForeign := by
  cases fault <;> rfl

theorem IsForeign.ne_busy {failure : Failure} (h : failure.IsForeign) : failure ≠ .busy := by
  rintro rfl
  cases h

end Failure

namespace Act

variable {α β : Type}

@[simp] theorem pure_apply (a : α) (w : World) : (pure a : Act α) w = (.ok a, w) := rfl

@[simp] theorem throw_apply (failure : Failure) (w : World) :
    (throw failure : Act α) w = (.error failure, w) := rfl

@[simp] theorem get_apply (w : World) : (get : Act World) w = (.ok w, w) := rfl

@[simp] theorem modify_apply (f : World → World) (w : World) :
    (modify f : Act Unit) w = (.ok (), f w) := rfl

@[simp] theorem bind_apply (act : Act α) (f : α → Act β) (w : World) :
    (act >>= f) w = match act w with
      | (.ok a, w) => f a w
      | (.error failure, w) => (.error failure, w) := by
  rcases hact : act w with ⟨result, w'⟩
  cases result <;> simp [Bind.bind, ExceptT.bind, ExceptT.mk, StateT.bind, hact, ExceptT.bindCont]
  rfl

@[simp] theorem map_apply (f : α → β) (act : Act α) (w : World) :
    (f <$> act) w = ((act w).1.map f, (act w).2) := by
  rcases hact : act w with ⟨result, w'⟩
  cases result <;> simp [Functor.map, ExceptT.map, ExceptT.mk, Bind.bind, StateT.bind, hact] <;> rfl

@[simp] theorem ite_apply (c : Prop) [Decidable c] (act act' : Act α) (w : World) :
    (if c then act else act') w = if c then act w else act' w := by
  split <;> rfl

@[simp] theorem log_apply (level : LogLevel) (origin : Origin) (message : Text) (w : World) :
    log level origin message w = (.ok (), w.note level origin message) := rfl

@[simp] theorem trace_apply (event : TraceEvent) (w : World) :
    trace event w = (.ok (), { w with trace := w.trace ++ [event] }) := rfl

@[simp] theorem attempt_apply (act : Act α) (w : World) :
    act.attempt w = (.ok (act w).1, (act w).2) := rfl

/-- An action never leaves a set of worlds. -/
def Keeps (act : Act α) (inv : World → Prop) : Prop := ∀ w, inv w → inv (act w).2

variable {inv : World → Prop}

theorem keeps_pure (a : α) : (pure a : Act α).Keeps inv := fun _ h => h

theorem keeps_throw (failure : Failure) : (throw failure : Act α).Keeps inv := fun _ h => h

theorem keeps_get : (get : Act World).Keeps inv := fun _ h => h

theorem keeps_ofExcept {ε : Type} (toFailure : ε → Failure) (result : Except ε α) :
    (ofExcept toFailure result).Keeps inv := by
  cases result with
  | ok a => exact keeps_pure a
  | error e => exact keeps_throw _

theorem keeps_modify {f : World → World} (hf : ∀ w, inv w → inv (f w)) :
    (modify f : Act Unit).Keeps inv := hf

theorem Keeps.bind {act : Act α} {f : α → Act β} (hact : act.Keeps inv)
    (hf : ∀ a, (f a).Keeps inv) : (act >>= f).Keeps inv := by
  intro w h
  have hafter := hact w h
  rcases heq : act w with ⟨result, w'⟩
  rw [heq] at hafter
  rw [bind_apply, heq]
  cases result with
  | ok a => exact hf a w' hafter
  | error failure => exact hafter

/-- A first step that may be left out. -/
theorem Keeps.optional {c : Prop} [Decidable c] {act : Act Unit} {f : Unit → Act β}
    (hact : act.Keeps inv) (hf : (f ()).Keeps inv) :
    (if c then act >>= f else f ()).Keeps inv := by
  split
  · exact hact.bind fun _ => hf
  · exact hf

theorem Keeps.attempt {act : Act α} (hact : act.Keeps inv) : act.attempt.Keeps inv := hact

/-- Every failure of an action is one of a set. -/
def Fails (act : Act α) (of : Failure → Prop) : Prop :=
  ∀ w failure, (act w).1 = .error failure → of failure

variable {of : Failure → Prop}

theorem fails_pure (a : α) : (pure a : Act α).Fails of := fun _ _ => nofun

theorem fails_get : (get : Act World).Fails of := fun _ _ => nofun

theorem fails_modify (f : World → World) : (modify f : Act Unit).Fails of := fun _ _ => nofun

theorem fails_log (level : LogLevel) (origin : Origin) (message : Text) :
    (log level origin message).Fails of := fails_modify _

theorem fails_throw {failure : Failure} (hfailure : of failure) : (throw failure : Act α).Fails of :=
  fun _ _ h => Except.error.inj h ▸ hfailure

theorem fails_ofExcept {ε : Type} {toFailure : ε → Failure} (hfailure : ∀ e, of (toFailure e))
    (result : Except ε α) : (ofExcept toFailure result).Fails of := by
  cases result with
  | ok a => exact fails_pure a
  | error e => exact fails_throw (hfailure e)

theorem Fails.bind {act : Act α} {f : α → Act β} (hact : act.Fails of) (hf : ∀ a, (f a).Fails of) :
    (act >>= f).Fails of := by
  intro w failure h
  rcases heq : act w with ⟨raised | a, w'⟩ <;> rw [bind_apply, heq] at h
  · obtain rfl := Except.error.inj h
    exact hact w raised (congrArg Prod.fst heq)
  · exact hf a w' failure h

theorem Fails.optional {c : Prop} [Decidable c] {act : Act Unit} {f : Unit → Act β}
    (hact : act.Fails of) (hf : (f ()).Fails of) : (if c then act >>= f else f ()).Fails of := by
  split
  · exact hact.bind fun _ => hf
  · exact hf

/-- What follows on an attempt may rely on the failures of the attempt. -/
theorem Fails.bind_attempt {act : Act α} {f : Except Failure α → Act β} (hact : act.Fails of)
    (hok : ∀ a, (f (.ok a)).Fails of) (herror : ∀ failure, of failure → (f (.error failure)).Fails of) :
    (act.attempt >>= f).Fails of := by
  intro w failure h
  rw [bind_apply, attempt_apply] at h
  rcases heq : act w with ⟨raised | a, w'⟩ <;> rw [heq] at h
  · exact herror raised (hact w raised (congrArg Prod.fst heq)) w' failure h
  · exact hok a w' failure h

end Act

namespace ActOn

variable {σ τ α β : Type}

@[simp] theorem pure_apply (a : α) (object : σ) (w : World) :
    (pure a : ActOn σ α) object w = ((.ok a, object), w) := rfl

@[simp] theorem throw_apply (failure : Failure) (object : σ) (w : World) :
    (throw failure : ActOn σ α) object w = ((.error failure, object), w) := rfl

@[simp] theorem get_apply (object : σ) (w : World) :
    (get : ActOn σ σ) object w = ((.ok object, object), w) := rfl

@[simp] theorem modify_apply (f : σ → σ) (object : σ) (w : World) :
    (modify f : ActOn σ Unit) object w = ((.ok (), f object), w) := rfl

@[simp] theorem bind_apply (act : ActOn σ α) (f : α → ActOn σ β) (object : σ) (w : World) :
    (act >>= f) object w = match act object w with
      | ((.ok a, object), w) => f a object w
      | ((.error failure, object), w) => ((.error failure, object), w) := by
  rcases hact : act object w with ⟨⟨result, object'⟩, w'⟩
  cases result <;> simp [Bind.bind, ExceptT.bind, ExceptT.mk, StateT.bind, hact, ExceptT.bindCont]
  rfl

@[simp] theorem map_apply (f : α → β) (act : ActOn σ α) (object : σ) (w : World) :
    (f <$> act) object w =
      (((act object w).1.1.map f, (act object w).1.2), (act object w).2) := by
  rcases hact : act object w with ⟨⟨result, object'⟩, w'⟩
  cases result <;> simp [Functor.map, ExceptT.map, ExceptT.mk, Bind.bind, StateT.bind, hact] <;> rfl

@[simp] theorem ite_apply (c : Prop) [Decidable c] (act act' : ActOn σ α) (object : σ) (w : World) :
    (if c then act else act') object w = if c then act object w else act' object w := by
  split <;> rfl

@[simp] theorem lift_apply (act : Act α) (object : σ) (w : World) :
    lift act object w = (((act w).1, object), (act w).2) := rfl

@[simp] theorem part_apply (view : σ → τ) (update : σ → τ → σ) (act : ActOn τ α) (object : σ)
    (w : World) :
    part view update act object w = (((act (view object) w).1.1,
      update object (act (view object) w).1.2), (act (view object) w).2) := rfl

@[simp] theorem attempt_apply (act : ActOn σ α) (object : σ) (w : World) :
    act.attempt object w = ((.ok (act object w).1.1, (act object w).1.2), (act object w).2) := rfl

/-- What an action with a cleanup does: the cleanup runs exactly if the action fails, and a failure
of the cleanup itself takes the place of the first one. -/
theorem onFailure_apply (act : ActOn σ α) (cleanup : ActOn σ Unit) (object : σ) (w : World) :
    act.onFailure cleanup object w = match act object w with
      | ((.ok a, object), w) => ((.ok a, object), w)
      | ((.error failure, object), w) => (do cleanup; throw failure : ActOn σ α) object w := by
  rcases hact : act object w with ⟨⟨result, object'⟩, w'⟩
  cases result <;> simp [onFailure, hact]

/-- An action that succeeds has succeeded in all its steps. -/
theorem exists_of_bind {act : ActOn σ α} {f : α → ActOn σ β} {object object' : σ} {w w' : World}
    {b : β} (h : (act >>= f) object w = ((.ok b, object'), w')) :
    ∃ a next v, act object w = ((.ok a, next), v) ∧ f a next v = ((.ok b, object'), w') := by
  rw [bind_apply] at h
  rcases hact : act object w with ⟨⟨_ | a, next⟩, v⟩
  · rw [hact] at h
    cases h
  · rw [hact] at h
    exact ⟨a, next, v, rfl, h⟩

theorem eq_of_onFailure {act : ActOn σ α} {cleanup : ActOn σ Unit} {object object' : σ} {w w' : World}
    {a : α} (h : act.onFailure cleanup object w = ((.ok a, object'), w')) :
    act object w = ((.ok a, object'), w') := by
  rw [onFailure_apply] at h
  rcases hact : act object w with ⟨⟨_ | _, next⟩, v⟩
  · rw [hact] at h
    obtain ⟨_, _, _, _, hthrow⟩ := exists_of_bind h
    cases hthrow
  · rw [hact] at h
    exact h

/-! Actions that leave nothing in the world but records. -/

/-- The action comes to `result` on `object` and leaves `object'`; the world changes in its records
only, and an observer sees `events`. -/
def Ends (act : ActOn σ α) (object : σ) (result : Except Failure α) (object' : σ)
    (events : List TraceEvent) : Prop :=
  ∀ w, ∃ w', act object w = ((result, object'), w') ∧ w.RecordsOnly w' ∧ w'.trace = w.trace ++ events

/-- The action succeeds on `object` with result `a`. -/
def Emits (act : ActOn σ α) (object : σ) (a : α) (object' : σ) (events : List TraceEvent) : Prop :=
  act.Ends object (.ok a) object' events

theorem emits_pure (a : α) (object : σ) : (pure a : ActOn σ α).Emits object a object [] :=
  fun w => ⟨w, rfl, .refl w, (List.append_nil _).symm⟩

theorem emits_get (object : σ) : (get : ActOn σ σ).Emits object object object [] :=
  fun w => ⟨w, rfl, .refl w, (List.append_nil _).symm⟩

theorem emits_modify (f : σ → σ) (object : σ) :
    (modify f : ActOn σ Unit).Emits object () (f object) [] :=
  fun w => ⟨w, rfl, .refl w, (List.append_nil _).symm⟩

theorem emits_log (level : LogLevel) (origin : Origin) (message : Text) (object : σ) :
    (lift (Act.log level origin message) : ActOn σ Unit).Emits object () object [] :=
  fun w => ⟨w.note level origin message, rfl, w.recordsOnly_note level origin message,
    (List.append_nil _).symm⟩

theorem emits_trace (event : TraceEvent) (object : σ) :
    (lift (Act.trace event) : ActOn σ Unit).Emits object () object [event] :=
  fun w => ⟨{ w with trace := w.trace ++ [event] }, rfl, rfl, rfl⟩

theorem ends_throw (failure : Failure) (object : σ) :
    (throw failure : ActOn σ α).Ends object (.error failure) object [] :=
  fun w => ⟨w, rfl, .refl w, (List.append_nil _).symm⟩

theorem Emits.bind {act : ActOn σ α} {f : α → ActOn σ β} {object object' object'' : σ} {a : α}
    {result : Except Failure β} {events events' : List TraceEvent}
    (hact : act.Emits object a object' events) (hf : (f a).Ends object' result object'' events') :
    (act >>= f).Ends object result object'' (events ++ events') := by
  intro w
  obtain ⟨w', hact, hfirst, htrace⟩ := hact w
  obtain ⟨w'', hf, hsecond, htrace'⟩ := hf w'
  exact ⟨w'', by rw [bind_apply, hact, ← hf], hfirst.trans hsecond,
    by rw [htrace', htrace, List.append_assoc]⟩

/-- Nothing is seen of the second step. -/
theorem Emits.bind_unseen {act : ActOn σ α} {f : α → ActOn σ β} {object object' object'' : σ} {a : α}
    {result : Except Failure β} {events : List TraceEvent} (hact : act.Emits object a object' events)
    (hf : (f a).Ends object' result object'' []) : (act >>= f).Ends object result object'' events := by
  have hboth := hact.bind hf
  rwa [List.append_nil] at hboth

/-- Nothing is seen of the first step. -/
theorem Emits.bind_seen {act : ActOn σ α} {f : α → ActOn σ β} {object object' object'' : σ} {a : α}
    {result : Except Failure β} {events : List TraceEvent} (hact : act.Emits object a object' [])
    (hf : (f a).Ends object' result object'' events) : (act >>= f).Ends object result object'' events :=
  hact.bind hf

/-- What follows on a failure is not done. -/
theorem Ends.bind_of_error {act : ActOn σ α} {f : α → ActOn σ β} {object object' : σ}
    {failure : Failure} {events : List TraceEvent}
    (hact : act.Ends object (.error failure) object' events) :
    (act >>= f).Ends object (.error failure) object' events := by
  intro w
  obtain ⟨w', hact, hrest⟩ := hact w
  exact ⟨w', by rw [bind_apply, hact], hrest⟩

/-- A first step that leaves the object alone and is not seen may as well be left out. -/
theorem Emits.optional {c : Prop} [Decidable c] {act : ActOn σ Unit} {f : Unit → ActOn σ β}
    {object object' : σ} {result : Except Failure β} {events : List TraceEvent}
    (hact : act.Emits object () object []) (hf : (f ()).Ends object result object' events) :
    (if c then act >>= f else f ()).Ends object result object' events := by
  split
  · exact hact.bind hf
  · exact hf

/-- The action succeeds on `object` with result `a` and leaves `object'`; the world changes in its
records only. -/
def Settles (act : ActOn σ α) (object : σ) (a : α) (object' : σ) : Prop :=
  ∀ w, ∃ w', act object w = ((.ok a, object'), w') ∧ w.RecordsOnly w'

theorem Emits.settles {act : ActOn σ α} {object object' : σ} {a : α} {events : List TraceEvent}
    (hact : act.Emits object a object' events) : act.Settles object a object' := by
  intro w
  obtain ⟨w', hact, hrecords, _⟩ := hact w
  exact ⟨w', hact, hrecords⟩

theorem settles_pure (a : α) (object : σ) : (pure a : ActOn σ α).Settles object a object :=
  (emits_pure a object).settles

theorem settles_get (object : σ) : (get : ActOn σ σ).Settles object object object :=
  (emits_get object).settles

theorem settles_modify (f : σ → σ) (object : σ) :
    (modify f : ActOn σ Unit).Settles object () (f object) :=
  (emits_modify f object).settles

theorem Settles.bind {act : ActOn σ α} {f : α → ActOn σ β} {object object' object'' : σ}
    {a : α} {b : β} (hact : act.Settles object a object') (hf : (f a).Settles object' b object'') :
    (act >>= f).Settles object b object'' := by
  intro w
  obtain ⟨w', hact, hfirst⟩ := hact w
  obtain ⟨w'', hf, hsecond⟩ := hf w'
  exact ⟨w'', by rw [bind_apply, hact, ← hf], hfirst.trans hsecond⟩

/-! Sets of states that an action never leaves. -/

/-- An action never leaves a set of states, whether it fails or not. -/
def Keeps (act : ActOn σ α) (inv : σ → World → Prop) : Prop :=
  ∀ object w, inv object w → inv (act object w).1.2 (act object w).2

variable {inv : σ → World → Prop}

theorem keeps_pure (a : α) : (pure a : ActOn σ α).Keeps inv := fun _ _ h => h

theorem keeps_throw (failure : Failure) : (throw failure : ActOn σ α).Keeps inv := fun _ _ h => h

theorem keeps_get : (get : ActOn σ σ).Keeps inv := fun _ _ h => h

theorem keeps_modify {f : σ → σ} (hf : ∀ object w, inv object w → inv (f object) w) :
    (modify f : ActOn σ Unit).Keeps inv := hf

theorem keeps_lift {act : Act α} (hact : ∀ object, act.Keeps (inv object)) :
    (lift act : ActOn σ α).Keeps inv := fun object w h => hact object w h

theorem Keeps.bind {act : ActOn σ α} {f : α → ActOn σ β} (hact : act.Keeps inv)
    (hf : ∀ a, (f a).Keeps inv) : (act >>= f).Keeps inv := by
  intro object w h
  have hafter := hact object w h
  rcases heq : act object w with ⟨⟨result, object'⟩, w'⟩
  rw [heq] at hafter
  rw [bind_apply, heq]
  cases result with
  | ok a => exact hf a object' w' hafter
  | error failure => exact hafter

theorem Keeps.map {act : ActOn σ α} {f : α → β} (hact : act.Keeps inv) : (f <$> act).Keeps inv := by
  intro object w h
  rw [map_apply]
  exact hact object w h

/-- What follows on a look at the object may rely on the object being one of the set. -/
theorem keeps_bind_get {f : σ → ActOn σ α}
    (hf : ∀ object w, inv object w → (f object).Keeps inv) : (get >>= f).Keeps inv := by
  intro object w h
  exact hf object w h object w h

theorem Keeps.optional {c : Prop} [Decidable c] {act : ActOn σ Unit} {f : Unit → ActOn σ β}
    (hact : act.Keeps inv) (hf : (f ()).Keeps inv) :
    (if c then act >>= f else f ()).Keeps inv := by
  split
  · exact hact.bind fun _ => hf
  · exact hf

theorem Keeps.onFailure {act : ActOn σ α} {cleanup : ActOn σ Unit} (hact : act.Keeps inv)
    (hcleanup : cleanup.Keeps inv) : (act.onFailure cleanup).Keeps inv := by
  intro object w h
  have hafter := hact object w h
  rw [onFailure_apply]
  rcases heq : act object w with ⟨⟨result, object'⟩, w'⟩
  rw [heq] at hafter
  cases result with
  | ok a => exact hafter
  | error failure => exact (hcleanup.bind fun _ => keeps_throw failure) object' w' hafter

end ActOn

namespace Except

/-- A computation that succeeds has succeeded in both its steps. -/
theorem exists_of_bind {ε α β : Type} {first : Except ε α} {next : α → Except ε β} {b : β}
    (h : (first >>= next) = .ok b) : ∃ a, first = .ok a ∧ next a = .ok b := by
  cases first with
  | error e => cases h
  | ok a => exact ⟨a, rfl, h⟩

theorem eq_ok_of_mapError {ε δ α : Type} {f : ε → δ} {result : Except ε α} {a : α}
    (h : result.mapError f = .ok a) : result = .ok a := by
  cases result with
  | error e => cases h
  | ok a => exact congrArg _ (Except.ok.inj h)

end Except

end ScanLauncher

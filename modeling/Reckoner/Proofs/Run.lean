import Reckoner.Evaluation.Run

/-!
# Reasoning about runs

A run is opened only here. `Run.on` is what a computation does to a journal, with one equation for
each way of building a computation. On top of it stand three notions. `Run.Yields`: whatever the
journal, results and faults are of a given kind. `Run.SameResults`: whatever the journals, two
computations give the same results, if they give any. `Run.SameOutcome`: they give the same faults
as well.
-/
namespace Reckoner.Run

variable {α β : Type} {x : Run α} {f : α → Run β} {j : Journal}

@[simp] theorem on_pure (a : α) (j : Journal) : (pure a : Run α).on j = (.ok a, j) := rfl

@[simp] theorem on_throw (fault : Fault) (j : Journal) :
    (throw fault : Run α).on j = (.error fault, j) := rfl

@[simp] theorem on_logLine (line : String) (j : Journal) :
    (logLine line).on j = (.ok (), { j with log := j.log ++ [line] }) := rfl

@[simp] theorem on_recordCall (name : String) (arguments : List Number) (j : Journal) :
    (recordCall name arguments).on j =
      (.ok (), { j with calls := j.calls ++ [(name, arguments)] }) := rfl

@[simp] theorem on_ofExcept (r : Except Fault α) (j : Journal) : (ofExcept r).on j = (r, j) := by
  cases r <;> rfl

theorem on_bind (x : Run α) (f : α → Run β) (j : Journal) :
    (x >>= f).on j =
      match x.on j with
      | (.ok a, j') => (f a).on j'
      | (.error fault, j') => (.error fault, j') := by
  cases h : x.on j with
  | mk r j' =>
    simp only [on, ExceptT.run_bind, StateT.run_bind]
    rw [show StateT.run (ExceptT.run x) j = (r, j') from h]
    cases r <;> rfl

/-- A computation that succeeds is followed by the next one, in the journal that it leaves. -/
theorem bind_of_ok {a : α} (h : (x.on j).1 = .ok a) :
    ((x >>= f).on j).1 = ((f a).on (x.on j).2).1 := by
  rw [on_bind]
  revert h
  rcases x.on j with ⟨r, j'⟩
  rintro (rfl : r = .ok a)
  rfl

/-- Nothing follows a computation that fails. -/
theorem bind_of_error {fault : Fault} (h : (x.on j).1 = .error fault) :
    ((x >>= f).on j).1 = .error fault := by
  rw [on_bind]
  revert h
  rcases x.on j with ⟨r, j'⟩
  rintro (rfl : r = .error fault)
  rfl

theorem on_tryCatch (x : Run α) (handle : Fault → Run α) (j : Journal) :
    (tryCatch x handle).on j =
      match x.on j with
      | (.ok a, j') => (.ok a, j')
      | (.error fault, j') => (handle fault).on j' := by
  cases h : x.on j with
  | mk r j' =>
    simp only [on, tryCatch, tryCatchThe, MonadExceptOf.tryCatch, ExceptT.tryCatch, ExceptT.run_mk,
      StateT.run_bind]
    rw [show StateT.run x j = (r, j') from h]
    cases r <;> rfl

/-- Every result is good, and every fault is of an expected kind. -/
def Yields (x : Run α) (good : α → Prop) (expected : Fault → Prop) : Prop :=
  ∀ j, match (x.on j).1 with
    | .ok a => good a
    | .error fault => expected fault

variable {good : α → Prop} {good' : β → Prop} {expected expected' : Fault → Prop}

theorem Yields.mono (h : x.Yields good expected) (hf : ∀ fault, expected fault → expected' fault) :
    x.Yields good expected' := by
  intro j
  have hx := h j
  cases hr : (x.on j).1 with
  | ok a => simpa [hr] using hx
  | error fault => exact hf fault (by simpa [hr] using hx)

theorem Yields.of_ok {a : α} (h : x.Yields good expected) (ha : (x.on j).1 = .ok a) : good a := by
  have hx := h j
  rwa [ha] at hx

theorem Yields.pure {a : α} (h : good a) : (pure a : Run α).Yields good expected :=
  fun _ => h

theorem Yields.throw {fault : Fault} (h : expected fault) :
    (throw fault : Run α).Yields good expected :=
  fun _ => h

theorem Yields.ofExcept {r : Except Fault α}
    (h : match r with | .ok a => good a | .error fault => expected fault) :
    (ofExcept r).Yields good expected := by
  intro j
  rwa [on_ofExcept]

theorem Yields.logLine (line : String) : (logLine line).Yields (fun _ => True) expected :=
  fun _ => trivial

theorem Yields.bind (h : x.Yields good expected) (hf : ∀ a, good a → (f a).Yields good' expected) :
    (x >>= f).Yields good' expected := by
  intro j
  have hx := h j
  rw [on_bind]
  cases hr : x.on j with
  | mk r j' =>
    rw [hr] at hx
    cases r with
    | ok a => exact hf a hx j'
    | error fault => exact hx

/-- A handler turns the faults of a computation into others. -/
theorem Yields.tryCatch {handle : Fault → Run α} (h : x.Yields good expected)
    (hh : ∀ fault, expected fault → (handle fault).Yields good expected') :
    (tryCatch x handle).Yields good expected' := by
  intro j
  have hx := h j
  rw [on_tryCatch]
  cases hr : x.on j with
  | mk r j' =>
    rw [hr] at hx
    cases r with
    | ok a => exact hx
    | error fault => exact hh fault hx j'

/-! ## Results alone -/

theorem bind_eq_ok {b : β} :
    ((x >>= f).on j).1 = .ok b ↔
      ∃ a, (x.on j).1 = .ok a ∧ ((f a).on (x.on j).2).1 = .ok b := by
  rw [on_bind]
  rcases x.on j with ⟨_ | a, j'⟩ <;> simp

/-- Two computations give the same results, whatever journals they find. Faults may differ, and so
may what is written. -/
def SameResults (x y : Run α) : Prop :=
  ∀ a j j', (x.on j).1 = .ok a ↔ (y.on j').1 = .ok a

theorem SameResults.pure (a : α) : (pure a : Run α).SameResults (Pure.pure a) :=
  fun _ _ _ => Iff.rfl

theorem SameResults.ofExcept (r : Except Fault α) : (ofExcept r).SameResults (ofExcept r) := by
  intro a j j'
  rw [on_ofExcept, on_ofExcept]

theorem SameResults.throw (fault fault' : Fault) :
    (throw fault : Run α).SameResults (MonadExcept.throw fault') :=
  fun _ _ _ => ⟨nofun, nofun⟩

theorem SameResults.bind {y : Run α} {g : α → Run β} (h : x.SameResults y)
    (hf : ∀ a, (f a).SameResults (g a)) : (x >>= f).SameResults (y >>= g) := by
  intro b j j'
  rw [bind_eq_ok, bind_eq_ok]
  constructor
  · rintro ⟨a, ha, hb⟩
    exact ⟨a, (h a j j').mp ha, (hf a b _ _).mp hb⟩
  · rintro ⟨a, ha, hb⟩
    exact ⟨a, (h a j j').mpr ha, (hf a b _ _).mpr hb⟩

/-! ## Outcomes -/

/-- Two computations end alike, with the same result or the same fault, whatever journals they find.
What is written may differ. -/
def SameOutcome (x y : Run α) : Prop :=
  ∀ j j', (x.on j).1 = (y.on j').1

theorem SameOutcome.ofExcept (r : Except Fault α) : (ofExcept r).SameOutcome (ofExcept r) := by
  intro j j'
  rw [on_ofExcept, on_ofExcept]

theorem SameOutcome.pure (a : α) : (pure a : Run α).SameOutcome (Pure.pure a) :=
  .ofExcept (.ok a)

theorem SameOutcome.throw (fault : Fault) :
    (throw fault : Run α).SameOutcome (MonadExcept.throw fault) :=
  .ofExcept (.error fault)

theorem SameOutcome.logLine (line : String) : (logLine line).SameOutcome (Run.logLine line) :=
  fun _ _ => rfl

theorem SameOutcome.bind {y : Run α} {g : α → Run β} (h : x.SameOutcome y)
    (hf : ∀ a, (f a).SameOutcome (g a)) : (x >>= f).SameOutcome (y >>= g) := by
  intro j j'
  have hxy := h j j'
  rw [on_bind, on_bind]
  revert hxy
  rcases x.on j with ⟨r, i⟩
  rcases y.on j' with ⟨r', i'⟩
  rintro (rfl : r = r')
  cases r with
  | ok a => exact hf a i i'
  | error fault => rfl

theorem SameOutcome.tryCatch {y : Run α} {handle handle' : Fault → Run α} (h : x.SameOutcome y)
    (hh : ∀ fault, (handle fault).SameOutcome (handle' fault)) :
    (tryCatch x handle).SameOutcome (MonadExcept.tryCatch y handle') := by
  intro j j'
  have hxy := h j j'
  rw [on_tryCatch, on_tryCatch]
  revert hxy
  rcases x.on j with ⟨r, i⟩
  rcases y.on j' with ⟨r', i'⟩
  rintro (rfl : r = r')
  cases r with
  | ok a => rfl
  | error fault => exact hh fault i i'

/-! ## Runs that do not look at the journal -/

/-- Whatever journal it finds, a computation ends in the given way, writes the given log lines, and
records no calls. -/
def Gives (x : Run α) (r : Except Fault α) (lines : List String) : Prop :=
  ∀ j, x.on j = (r, { j with log := j.log ++ lines })

section Gives

variable {fault : Fault} {a : α} {s : Except Fault α} {r : Except Fault β}
  {lines lines' : List String}

theorem Gives.result (h : x.Gives s lines) (j : Journal) : (x.on j).1 = s :=
  congrArg Prod.fst (h j)

theorem Gives.ofExcept (r : Except Fault α) : (ofExcept r).Gives r [] :=
  fun j => by simp

theorem Gives.pure (a : α) : (pure a : Run α).Gives (.ok a) [] :=
  .ofExcept (.ok a)

theorem Gives.throw (fault : Fault) : (throw fault : Run α).Gives (.error fault) [] :=
  .ofExcept (.error fault)

theorem Gives.bind (h : x.Gives (.ok a) lines) (hf : (f a).Gives r lines') :
    (x >>= f).Gives r (lines ++ lines') := by
  intro j
  rw [on_bind, h j]
  simp [hf _]

theorem Gives.bind_error (h : x.Gives (.error fault) lines) :
    (x >>= f).Gives (.error fault) lines := by
  intro j
  rw [on_bind, h j]

end Gives

/-- Whatever journal it finds, a computation ends in the same way and writes the same log lines, and
it records no calls. -/
def Uniform (x : Run α) : Prop :=
  ∃ r lines, ∀ j, x.on j = (r, { j with log := j.log ++ lines })

theorem Uniform.sameOutcome (h : x.Uniform) : x.SameOutcome x := by
  obtain ⟨r, lines, hx⟩ := h
  intro j j'
  rw [hx, hx]

theorem Uniform.ofExcept (r : Except Fault α) : (ofExcept r).Uniform :=
  ⟨r, [], fun j => by simp⟩

theorem Uniform.pure (a : α) : (pure a : Run α).Uniform :=
  .ofExcept (.ok a)

theorem Uniform.throw (fault : Fault) : (throw fault : Run α).Uniform :=
  .ofExcept (.error fault)

theorem Uniform.logLine (line : String) : (logLine line).Uniform :=
  ⟨.ok (), [line], on_logLine line⟩

theorem Uniform.bind (h : x.Uniform) (hf : ∀ a, (f a).Uniform) : (x >>= f).Uniform := by
  obtain ⟨r, lines, hx⟩ := h
  cases r with
  | error fault => exact ⟨.error fault, lines, Gives.bind_error hx⟩
  | ok a =>
    obtain ⟨r', lines', ha⟩ := hf a
    exact ⟨r', lines ++ lines', Gives.bind hx ha⟩

theorem Uniform.tryCatch {handle : Fault → Run α} (h : x.Uniform)
    (hh : ∀ fault, (handle fault).Uniform) : (tryCatch x handle).Uniform := by
  obtain ⟨r, lines, hx⟩ := h
  cases r with
  | ok a => exact ⟨.ok a, lines, fun j => by rw [on_tryCatch, hx]⟩
  | error fault =>
    obtain ⟨r', lines', ha⟩ := hh fault
    refine ⟨r', lines ++ lines', fun j => ?_⟩
    rw [on_tryCatch, hx]
    simp [ha]

end Reckoner.Run

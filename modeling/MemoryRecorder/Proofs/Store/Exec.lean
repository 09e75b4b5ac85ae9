import MemoryRecorder.Proofs.Store.Documented

/-!
# Running work on a handle

Work on a store handle is a state and failure monad over the handle. These equations take a
run (`Handle.exec`) apart along the program: a bind runs its second part only after the first
succeeded, a handler runs only after a failure, a step of the engine replaces the connection,
and a loop over a list is its first round followed by the rest. The specifications of the
store's operations are proved from them without unfolding the monad again.
-/

namespace MemoryRecorder
namespace Store
namespace Handle

variable {σ α β : Type}

@[simp]
theorem exec_pure (h : Handle σ) (a : α) : h.exec (pure a : StoreOn σ α) = (h, .ok a) :=
  rfl

@[simp]
theorem exec_throw (h : Handle σ) (e : StoreError) :
    h.exec (throw e : StoreOn σ α) = (h, .error e) :=
  rfl

@[simp]
theorem exec_get (h : Handle σ) : h.exec (get : StoreOn σ (Handle σ)) = (h, .ok h) :=
  rfl

@[simp]
theorem exec_set (h h' : Handle σ) : h.exec (set h' : StoreOn σ Unit) = (h', .ok ()) :=
  rfl

@[simp]
theorem exec_modify (h : Handle σ) (f : Handle σ → Handle σ) :
    h.exec (modify f : StoreOn σ Unit) = (f h, .ok ()) :=
  rfl

theorem exec_bind (h : Handle σ) (m : StoreOn σ α) (f : α → StoreOn σ β) :
    h.exec (m >>= f) =
      match h.exec m with
      | (h', .ok a) => h'.exec (f a)
      | (h', .error e) => (h', .error e) := by
  simp only [Handle.exec, bind, ExceptT.bind, ExceptT.bindCont, ExceptT.mk, ExceptT.run,
    StateT.bind, StateT.run]
  cases hm : m h with
  | mk r h' =>
      cases r <;> rfl

theorem exec_bind_ok {h h' : Handle σ} {m : StoreOn σ α} {a : α} (f : α → StoreOn σ β)
    (hm : h.exec m = (h', .ok a)) : h.exec (m >>= f) = h'.exec (f a) := by
  rw [exec_bind, hm]

theorem exec_bind_error {h h' : Handle σ} {m : StoreOn σ α} {e : StoreError}
    (f : α → StoreOn σ β) (hm : h.exec m = (h', .error e)) :
    h.exec (m >>= f) = (h', .error e) := by
  rw [exec_bind, hm]

/-- A bind after a first part that succeeded runs the second part from where the first left. -/
theorem exec_bind_of_ok {h : Handle σ} {m : StoreOn σ α} {a : α} (f : α → StoreOn σ β)
    (hm : (h.exec m).2 = .ok a) : h.exec (m >>= f) = (h.exec m).1.exec (f a) := by
  rw [exec_bind]
  rcases hr : h.exec m with ⟨h', r⟩
  rw [hr] at hm
  obtain rfl : r = .ok a := hm
  rfl

/-- A bind after a first part that failed fails where the first left. -/
theorem exec_bind_of_error {h : Handle σ} {m : StoreOn σ α} {e : StoreError}
    (f : α → StoreOn σ β) (hm : (h.exec m).2 = .error e) :
    h.exec (m >>= f) = ((h.exec m).1, .error e) := by
  rw [exec_bind]
  rcases hr : h.exec m with ⟨h', r⟩
  rw [hr] at hm
  obtain rfl : r = .error e := hm
  rfl

theorem exec_seq (h : Handle σ) (m : StoreOn σ Unit) (k : StoreOn σ β) :
    h.exec (m >>= fun _ => k) =
      match h.exec m with
      | (h', .ok ()) => h'.exec k
      | (h', .error e) => (h', .error e) := by
  rw [exec_bind]
  rcases h.exec m with ⟨h', _ | _⟩ <;> rfl

theorem exec_tryCatch (h : Handle σ) (m : StoreOn σ α) (k : StoreError → StoreOn σ α) :
    h.exec (tryCatch m k) =
      match h.exec m with
      | (h', .ok a) => (h', .ok a)
      | (h', .error e) => h'.exec (k e) := by
  simp only [Handle.exec, tryCatch, tryCatchThe, MonadExceptOf.tryCatch, ExceptT.tryCatch,
    ExceptT.mk, ExceptT.run, StateT.bind, StateT.run, bind]
  cases hm : m h with
  | mk r h' =>
      cases r <;> rfl

theorem exec_tryCatch_of_ok {h : Handle σ} {m : StoreOn σ α} {a : α}
    (k : StoreError → StoreOn σ α) (hm : (h.exec m).2 = .ok a) :
    h.exec (tryCatch m k) = h.exec m := by
  rw [exec_tryCatch]
  rcases hr : h.exec m with ⟨h', r⟩
  rw [hr] at hm
  obtain rfl : r = .ok a := hm
  rfl

theorem exec_tryCatch_of_error {h : Handle σ} {m : StoreOn σ α} {e : StoreError}
    (k : StoreError → StoreOn σ α) (hm : (h.exec m).2 = .error e) :
    h.exec (tryCatch m k) = (h.exec m).1.exec (k e) := by
  rw [exec_tryCatch]
  rcases hr : h.exec m with ⟨h', r⟩
  rw [hr] at hm
  obtain rfl : r = .error e := hm
  rfl

theorem exec_ite (h : Handle σ) (c : Prop) [Decidable c] (m k : StoreOn σ α) :
    h.exec (if c then m else k) = if c then h.exec m else h.exec k := by
  split <;> rfl

theorem exec_liftRead (h : Handle σ) (x : Except StoreError α) :
    h.exec (liftRead x : StoreOn σ α) = (h, x) := by
  cases x <;> rfl

theorem exec_forIn_nil (h : Handle σ) {γ : Type} (b : β)
    (f : γ → β → StoreOn σ (ForInStep β)) :
    h.exec (forIn ([] : List γ) b f) = (h, .ok b) := by
  rw [List.forIn_nil]
  rfl

theorem exec_forIn_cons (h : Handle σ) {γ : Type} (x : γ) (xs : List γ) (b : β)
    (f : γ → β → StoreOn σ (ForInStep β)) :
    h.exec (forIn (x :: xs) b f) =
      match h.exec (f x b) with
      | (h', .ok (.yield b')) => h'.exec (forIn xs b' f)
      | (h', .ok (.done b')) => (h', .ok b')
      | (h', .error e) => (h', .error e) := by
  rw [List.forIn_cons, exec_bind]
  rcases h.exec (f x b) with ⟨h', _ | _ | _⟩ <;> rfl

theorem exec_forIn_cons_of_yield {h : Handle σ} {γ : Type} {x : γ} {b b' : β}
    (xs : List γ) {f : γ → β → StoreOn σ (ForInStep β)} (hf : (h.exec (f x b)).2 = .ok (.yield b')) :
    h.exec (forIn (x :: xs) b f) = (h.exec (f x b)).1.exec (forIn xs b' f) := by
  rw [exec_forIn_cons]
  rcases hr : h.exec (f x b) with ⟨h', r⟩
  rw [hr] at hf
  obtain rfl : r = .ok (.yield b') := hf
  rfl

theorem exec_forIn_cons_of_error {h : Handle σ} {γ : Type} {x : γ} {b : β} {e : StoreError}
    (xs : List γ) {f : γ → β → StoreOn σ (ForInStep β)} (hf : (h.exec (f x b)).2 = .error e) :
    h.exec (forIn (x :: xs) b f) = ((h.exec (f x b)).1, .error e) := by
  rw [exec_forIn_cons]
  rcases hr : h.exec (f x b) with ⟨h', r⟩
  rw [hr] at hf
  obtain rfl : r = .error e := hf
  rfl

theorem exec_onEngine (h : Handle σ) (f : σ → σ × Except Sql.DbError α) :
    h.exec (onEngine f) =
      ({ h with conn := (f h.conn).1 },
        match (f h.conn).2 with
        | .ok a => .ok a
        | .error e => .error (.sqlite (.ofDb e))) := by
  simp only [onEngine, exec_bind, exec_get, exec_set]
  rcases f h.conn with ⟨c, _ | a⟩ <;> rfl

theorem exec_onEngine_ok {h : Handle σ} {f : σ → σ × Except Sql.DbError α} {a : α}
    (hf : (f h.conn).2 = .ok a) :
    h.exec (onEngine f) = ({ h with conn := (f h.conn).1 }, .ok a) := by
  rw [exec_onEngine, hf]

end Handle
end Store
end MemoryRecorder

import SubspaceOps.Rejection

/-!
# Steps on a value in place

Steps read and write a value that they share. A fault ends them, but it takes back nothing that was
written before it; whoever catches the fault goes on with the value as it is then.
-/
namespace SubspaceOps

/-- Steps on a value that is changed in place. -/
abbrev Steps (σ : Type) := ExceptT Fault (StateM σ)

namespace Steps

variable {σ α β : Type}

/-- The outcome of steps, and the value that they leave. -/
def exec (x : Steps σ α) (s : σ) : Except Fault α × σ := StateT.run (ExceptT.run x) s

@[simp] theorem exec_bind (x : Steps σ α) (f : α → Steps σ β) (s : σ) :
    (x >>= f).exec s = match x.exec s with
      | (.ok a, s') => (f a).exec s'
      | (.error e, s') => (.error e, s') := by
  simp only [exec, ExceptT.run_bind, StateT.run_bind]
  cases (ExceptT.run x).run s with
  | mk outcome s' => cases outcome <;> rfl

@[simp] theorem exec_get (s : σ) : (get : Steps σ σ).exec s = (.ok s, s) := rfl

@[simp] theorem exec_modify (f : σ → σ) (s : σ) :
    (modify f : Steps σ Unit).exec s = (.ok (), f s) := rfl

@[simp] theorem exec_throw (e : Fault) (s : σ) : (throw e : Steps σ α).exec s = (.error e, s) := rfl

@[simp] theorem exec_tryCatch (x : Steps σ α) (handler : Fault → Steps σ α) (s : σ) :
    (tryCatch x handler).exec s = match x.exec s with
      | (.ok a, s') => (.ok a, s')
      | (.error e, s') => (handler e).exec s' := by
  simp only [exec, ExceptT.run_tryCatch, StateT.run_bind]
  cases (ExceptT.run x).run s with
  | mk outcome s' => cases outcome <;> rfl

end Steps

end SubspaceOps

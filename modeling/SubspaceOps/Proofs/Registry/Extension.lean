import SubspaceOps.Proofs.Registry.Consistency
import SubspaceOps.Registry.Skeleton
import SubspaceOps.Routing

/-!
# Extending a registry

An accepted request adds answers and changes none: every look-up that had an answer keeps it
(`extends_of_attempt`), hence over every run, whichever of its requests are refused. Decoding asks
for the owner and the operation of the kind only, so an envelope whose kind has an owner is decoded
alike ever after. A locked registry stays as it is.
-/
namespace SubspaceOps.Registry

variable {r r' r'' : Registry} {m : OperationModule} {kind : Int} {operation : String}
  {owner : Option OperationModule} {q : Request}

/-! ## Answers that stay -/

/-- Every look-up with an answer in the first registry has this answer in the second one. -/
structure Extends (r r' : Registry) : Prop where
  operation : ∀ k o, r.operation? k = some o → r'.operation? k = some o
  kind : ∀ o k, r.kind? o = some k → r'.kind? o = some k
  owner : ∀ k m, r.owner? k = some m → r'.owner? k = some m
  module : ∀ name m, r.module? name = some m → r'.module? name = some m

theorem Extends.refl (r : Registry) : r.Extends r :=
  ⟨fun _ _ h => h, fun _ _ h => h, fun _ _ h => h, fun _ _ h => h⟩

theorem Extends.trans (h : r.Extends r') (h' : r'.Extends r'') : r.Extends r'' where
  operation k o hk := h'.operation k o (h.operation k o hk)
  kind o k ho := h'.kind o k (h.kind o k ho)
  owner k m hk := h'.owner k m (h.owner k m hk)
  module name m hm := h'.module name m (h.module name m hm)

/-- A pair without conflict meets its own kind and operation only with what it enters itself. -/
theorem extends_bind (free : r.conflict? kind operation owner = none) :
    r.Extends (r.bind kind operation owner) := by
  obtain ⟨same_operation, same_kind, same_owner⟩ := conflict?_eq_none_iff.1 free
  refine ⟨fun k o ho => ?_, fun o k hk => ?_, fun k m hm => ?_, fun _ _ h => h⟩
  · rw [operation?_bind]
    split
    · next e => rw [same_operation o (e ▸ ho)]
    · exact ho
  · rw [kind?_bind]
    split
    · next e => rw [same_kind k (e ▸ hk)]
    · exact hk
  · rw [owner?_bind]
    split
    · next e =>
      rw [e] at hm
      cases owner with
      | none => exact hm
      | some new => rw [same_owner new rfl m hm, Option.some_or]
    · exact hm

theorem extends_enroll (fresh : r.module? m.name = none)
    (free : ∀ d ∈ m.declarations, r.conflict? d.1 d.2 (some m) = none)
    (operations_nodup : (m.declarations.map Prod.snd).Nodup) : r.Extends (r.enroll m) := by
  have entered : r.Extends (r.bindAll m m.declarations) :=
    bindAll_induction (.refl r) (fun _ _ _ h free => h.trans (extends_bind free)) free m.kinds.nodup
      operations_nodup
  refine ⟨entered.operation, entered.kind, entered.owner, fun name m' hm => ?_⟩
  have hname : name ≠ m.name := by
    rintro rfl
    cases fresh.symm.trans hm
  rw [module?_enroll, if_neg hname, hm]

theorem extends_of_attempt (accepted : r.attempt q = .ok r') : r.Extends r' := by
  obtain ⟨_, _, _, -, -, free, rfl⟩ | ⟨m, -, -, fresh, free, nodup, rfl⟩ | ⟨-, rfl⟩ :=
    attempt_cases accepted
  · exact extends_bind free
  · exact extends_enroll fresh free nodup
  · exact ⟨fun _ _ h => h, fun _ _ h => h, fun _ _ h => h, fun _ _ h => h⟩

theorem extends_steps (r : Registry) (qs : List Request) : r.Extends (qs.foldl step r) :=
  steps_induction (.refl r) (fun _ _ _ h accepted => h.trans (extends_of_attempt accepted)) qs

/-! ## What decoding asks for -/

/-- Decoding asks a registry for the owner and the operation of the kind, and nothing else. -/
theorem decode_congr {e : Envelope} (owner : r'.owner? e.kind = r.owner? e.kind)
    (operation : r'.operation? e.kind = r.operation? e.kind) : r'.decode e = r.decode e := by
  have read (m : OperationModule) : Routing.outcomeWith m r' e = Routing.outcomeWith m r e := by
    simp only [Routing.outcomeWith, operation]
  have outcome : Routing.outcome r' e = Routing.outcome r e := by
    simp only [Routing.outcome, owner, operation, read]
  simp only [decode, owner, outcome]

theorem Extends.decode_eq (h : r.Extends r') (consistent : r.Consistent) {e : Envelope}
    (owner : r.owner? e.kind = some m) : r'.decode e = r.decode e := by
  obtain ⟨operation, named⟩ := consistent.registered e.kind m owner
  exact decode_congr ((h.owner _ _ owner).trans owner.symm)
    ((h.operation _ _ named).trans named.symm)

theorem Extends.skeleton_eq (h : r.Extends r') (found : r.kind? operation = some kind) (now : Int)
    (sid : String) : r'.skeleton now sid operation = r.skeleton now sid operation := by
  rw [skeleton, skeleton, found, h.kind _ _ found]

/-! ## The lock -/

theorem register_of_locked (locked : r.locked = true) (kind : Int) (operation : String)
    (owner : Option OperationModule) :
    r.register kind operation owner = .error (.rejected .registryLocked) := by
  rw [register, if_pos locked]

theorem registerModule_of_locked (locked : r.locked = true) (m : OperationModule) :
    r.registerModule m = .error (.rejected .registryLocked) := by
  rw [registerModule, if_pos locked]

theorem step_of_locked (locked : r.locked = true) (q : Request) : r.step q = r := by
  cases q with
  | pair kind operation owner =>
    exact step_of_attempt_eq_error (register_of_locked locked kind operation owner)
  | whole m => exact step_of_attempt_eq_error (registerModule_of_locked locked m)
  | lock =>
    obtain ⟨operations, kinds, owners, modules, _⟩ := r
    cases locked
    rfl

theorem steps_of_locked (locked : r.locked = true) (qs : List Request) : qs.foldl step r = r := by
  induction qs with
  | nil => rfl
  | cons q qs ih => rw [List.foldl_cons, step_of_locked locked, ih]

/-! ## Later registries -/

/-- Over every run of later requests, accepted or refused, a registry keeps its answers. Envelopes
whose kinds have an owner are decoded alike, with the same record or the same fault and the same
report, and operations with a kind start from the same header. From the first lock on, every
registration is refused and the registry does not change. -/
theorem settled_of_run (qs later : List Request) :
    (run qs).Extends (run (qs ++ later)) ∧
      (∀ e m, (run qs).owner? e.kind = some m →
        (run (qs ++ later)).decode e = (run qs).decode e) ∧
      (∀ operation kind, (run qs).kind? operation = some kind → ∀ now sid,
        (run (qs ++ later)).skeleton now sid operation = (run qs).skeleton now sid operation) ∧
      run (qs ++ .lock :: later) = { run qs with locked := true } ∧
      (∀ kind operation owner, (run (qs ++ .lock :: later)).register kind operation owner =
        .error (.rejected .registryLocked)) ∧
      ∀ m, (run (qs ++ .lock :: later)).registerModule m = .error (.rejected .registryLocked) := by
  have extended : (run qs).Extends (run (qs ++ later)) := by
    rw [run, run, List.foldl_append]
    exact extends_steps _ later
  have locked : run (qs ++ .lock :: later) = (run qs).lock := by
    rw [run, List.foldl_append, List.foldl_cons]
    exact steps_of_locked rfl later
  refine ⟨extended, fun e m => extended.decode_eq (consistent_run qs),
    fun operation kind => extended.skeleton_eq, locked, ?_, ?_⟩
  · rw [locked]
    exact register_of_locked rfl
  · rw [locked]
    exact registerModule_of_locked rfl

end SubspaceOps.Registry

import Mathlib.Data.List.Nodup
import SubspaceOps.Proofs.Faults
import SubspaceOps.Proofs.Registry.Consistency
import SubspaceOps.Proofs.Steps

/-!
# A module is registered as a whole or not at all

The declarations of a module are all checked before the first is entered, and entering them cannot
fail. So it makes no difference that a fault keeps what was written before it: carried out on the
tables in place, a registration that fails leaves them as they were (`exec_registerInPlace`). It
fails exactly when something stands against the module (`Obstacle`), and otherwise every table goes
on with what the module adds, and with nothing else (`Grown`).
-/
namespace SubspaceOps

/-! ## Tables that go on -/

namespace Entries

variable {κ ν : Type} [DecidableEq κ]

theorem write_of_lookup {k : κ} {v : ν} {es : List (κ × ν)} (h : es.lookup k = some v) :
    write k v es = es := by
  induction es with
  | nil => cases h
  | cons e es ih =>
    obtain ⟨a, b⟩ := e
    by_cases ha : a = k
    · subst ha
      have same : b = v := by simpa using h
      simp [write, same]
    · rw [List.lookup_cons, beq_false_of_ne (Ne.symm ha)] at h
      simp [write, ha, ih h]

end Entries

namespace Table

variable {κ ν : Type} [DecidableEq κ]

theorem put_of_get? {t : Table κ ν} {k : κ} {v : ν} (h : t.get? k = some v) : t.put k v = t :=
  ext (Entries.write_of_lookup h)

/-- Entries that agree with a table leave it as it is and go on behind it with those that are
new. -/
theorem entries_putAll_of_agrees [DecidableEq ν] {t : Table κ ν} {es : List (κ × ν)}
    (nodup : (es.map Prod.fst).Nodup) (agrees : ∀ e ∈ es, ∀ v, t.get? e.1 = some v → v = e.2) :
    (t.putAll es).entries = t.entries ++ es.filter (· ∉ t.entries) := by
  induction es generalizing t with
  | nil => simp [putAll]
  | cons e es ih =>
    rw [List.map_cons, List.nodup_cons] at nodup
    rw [List.forall_mem_cons] at agrees
    change ((t.put e.1 e.2).putAll es).entries = _
    -- A known key has this very value already; a new one is entered behind all others.
    cases known : t.get? e.1 with
    | some v =>
      have same : t.get? e.1 = some e.2 := agrees.1 v known ▸ known
      have present : e ∈ t.entries := get?_eq_some_iff.1 same
      rw [put_of_get? same, ih nodup.2 agrees.2, List.filter_cons_of_neg (by simpa using present)]
    | none =>
      have fresh : e.1 ∉ t.keys := by
        intro hk
        obtain ⟨v, hv⟩ := mem_keys_iff.1 hk
        cases known.symm.trans hv
      have absent : e ∉ t.entries := fun he => fresh (List.mem_map_of_mem he)
      have other : ∀ f ∈ es, f.1 ≠ e.1 := fun f hf h => nodup.1 (h ▸ List.mem_map_of_mem hf)
      have agrees_behind : ∀ f ∈ es, ∀ v, (t.put e.1 e.2).get? f.1 = some v → v = f.2 := by
        intro f hf v hv
        rw [get?_put_of_ne t (other f hf)] at hv
        exact agrees.2 f hf v hv
      have new_behind : es.filter (· ∉ t.entries ++ [e]) = es.filter (· ∉ t.entries) := by
        refine List.filter_congr fun f hf => ?_
        have apart : f ≠ e := fun h => other f hf (congrArg Prod.fst h)
        simp [apart]
      rw [ih nodup.2 agrees_behind, entries_put_of_not_mem fresh, new_behind,
        List.filter_cons_of_pos (by simpa using absent), List.append_assoc]
      rfl

end Table

namespace Registry

variable {r : Registry} {m : OperationModule} {ds : List (Int × String)}

theorem tables_bindAll (r : Registry) (m : OperationModule) (ds : List (Int × String)) :
    r.bindAll m ds = { r with
      operations := r.operations.putAll ds
      kinds := r.kinds.putAll (ds.map Prod.swap)
      owners := r.owners.putAll (ds.map fun d => (d.1, m)) } := by
  induction ds generalizing r with
  | nil => rfl
  | cons d ds ih => exact ih (r.bind d.1 d.2 (some m))

/-- The registry has gone on with the pairs of a module, owned by it, and with the module under its
name. -/
structure Grown (r : Registry) (m : OperationModule) (r' : Registry) : Prop where
  operations : r'.operations.entries =
    r.operations.entries ++ m.declarations.filter (· ∉ r.operations.entries)
  kinds : r'.kinds.entries =
    r.kinds.entries ++ (m.declarations.map Prod.swap).filter (· ∉ r.kinds.entries)
  owners : r'.owners.entries =
    r.owners.entries ++ (m.declarations.map fun d => (d.1, m)).filter (· ∉ r.owners.entries)
  modules : r'.modules.entries = r.modules.entries ++ [(m.name, m)]
  locked : r'.locked = r.locked

theorem grown_enroll (fresh : r.module? m.name = none)
    (free : ∀ d ∈ m.declarations, r.conflict? d.1 d.2 (some m) = none)
    (operations_nodup : (m.declarations.map Prod.snd).Nodup) : r.Grown m (r.enroll m) := by
  have free := fun d hd => conflict?_eq_none_iff.1 (free d hd)
  have entered : r.enroll m = { r with
      operations := r.operations.putAll m.declarations
      kinds := r.kinds.putAll (m.declarations.map Prod.swap)
      owners := r.owners.putAll (m.declarations.map fun d => (d.1, m))
      modules := r.modules.put m.name m } := by
    rw [enroll, tables_bindAll]
  rw [entered]
  refine ⟨?_, ?_, ?_, ?_, rfl⟩
  · exact Table.entries_putAll_of_agrees m.kinds.nodup fun d hd => (free d hd).1
  · refine Table.entries_putAll_of_agrees ?_ ?_
    · rw [List.map_map]
      exact operations_nodup
    · intro e he
      obtain ⟨d, hd, rfl⟩ := List.mem_map.1 he
      exact (free d hd).2.1
  · refine Table.entries_putAll_of_agrees ?_ ?_
    · rw [List.map_map]
      exact m.kinds.nodup
    · intro e he
      obtain ⟨d, hd, rfl⟩ := List.mem_map.1 he
      exact (free d hd).2.2 m rfl
  · refine Table.entries_put_of_not_mem (fun hk => ?_) m
    obtain ⟨m', hm'⟩ := Table.mem_keys_iff.1 hk
    cases fresh.symm.trans hm'

/-! ## What stands against a module -/

/-- What a registry has against a module: the lock, another module of its name, half of one of its
pairs bound otherwise, another owner of one of its kinds, or that the module itself has one
operation under two kinds. -/
inductive Obstacle (r : Registry) (m : OperationModule) : Prop
  | locked (h : r.locked = true)
  | named {other : OperationModule} (h : r.module? m.name = some other)
  | kind {kind : Int} {operation existing : String} (declared : (kind, operation) ∈ m.declarations)
      (bound : r.operation? kind = some existing) (differs : existing ≠ operation)
  | operation {kind existing : Int} {operation : String}
      (declared : (kind, operation) ∈ m.declarations) (bound : r.kind? operation = some existing)
      (differs : existing ≠ kind)
  | owned {kind : Int} {operation : String} {other : OperationModule}
      (declared : (kind, operation) ∈ m.declarations) (owner : r.owner? kind = some other)
      (differs : other ≠ m)
  | repeated {kind kind' : Int} {operation : String}
      (declared : (kind, operation) ∈ m.declarations)
      (again : (kind', operation) ∈ m.declarations) (differs : kind ≠ kind')

theorem nodup_operations_iff : (m.declarations.map Prod.snd).Nodup ↔
    ∀ kind kind' operation, (kind, operation) ∈ m.declarations →
      (kind', operation) ∈ m.declarations → kind = kind' := by
  have nodup : m.declarations.Nodup := List.Nodup.of_map _ m.kinds.nodup
  rw [List.nodup_map_iff_inj_on nodup]
  constructor
  · intro h kind kind' operation declared again
    exact congrArg Prod.fst (h _ declared _ again rfl)
  · rintro h ⟨kind, operation⟩ declared ⟨kind', _⟩ again rfl
    rw [h kind kind' operation declared again]

/-- A module without obstacle passes every check of the registration. -/
theorem not_obstacle_iff : ¬ r.Obstacle m ↔
    r.locked = false ∧ r.module? m.name = none ∧
      (∀ d ∈ m.declarations, r.conflict? d.1 d.2 (some m) = none) ∧
        (m.declarations.map Prod.snd).Nodup := by
  simp only [conflict?_eq_none_iff, nodup_operations_iff]
  constructor
  · intro clear
    refine ⟨?_, ?_, ?_, ?_⟩
    · exact Bool.eq_false_iff.2 fun h => clear (.locked h)
    · exact Option.eq_none_iff_forall_ne_some.2 fun other h => clear (.named h)
    · refine fun d hd => ⟨fun o ho => ?_, fun k hk => ?_, fun new hnew other ho => ?_⟩
      · by_contra differs
        exact clear (.kind hd ho differs)
      · by_contra differs
        exact clear (.operation hd hk differs)
      · cases hnew
        by_contra differs
        exact clear (.owned hd ho differs)
    · intro kind kind' operation declared again
      by_contra differs
      exact clear (.repeated declared again differs)
  · rintro ⟨unlocked, fresh, free, single⟩ obstacle
    cases obstacle with
    | locked h => cases unlocked.symm.trans h
    | named h => cases fresh.symm.trans h
    | kind declared bound differs => exact differs ((free _ declared).1 _ bound)
    | operation declared bound differs => exact differs ((free _ declared).2.1 _ bound)
    | owned declared owner differs => exact differs ((free _ declared).2.2 _ rfl _ owner)
    | repeated declared again differs => exact differs (single _ _ _ declared again)

/-! ## Registration in place -/

/-- Steps on a registry that is changed in place. A fault ends them, but it takes back nothing that
was written before it. -/
abbrev InPlace := ExceptT Fault (StateM Registry)

/-- The outcome of steps, and the registry that they leave. -/
def InPlace.exec {α : Type} (x : InPlace α) (r : Registry) : Except Fault α × Registry :=
  StateT.run (ExceptT.run x) r

theorem InPlace.exec_eq {α : Type} (x : InPlace α) (r : Registry) : x.exec r = Steps.exec x r := rfl

/-- Check declarations one after the other against the registry as it is at the time. The table
holds the operations seen before. -/
def checkInPlace (m : OperationModule) : Table String Int → List (Int × String) → InPlace Unit
  | _, [] => pure ()
  | seen, (kind, operation) :: rest => do
    let r ← get
    match r.conflict? kind operation (some m) with
    | some e => throw (.rejected e)
    | none =>
      match seen.get? operation with
      | some existing => throw (.rejected (.duplicateOperation operation existing kind))
      | none => checkInPlace m (seen.put operation kind) rest

/-- Enter declarations one after the other. -/
def bindInPlace (m : OperationModule) : List (Int × String) → InPlace Unit
  | [] => pure ()
  | (kind, operation) :: rest => do
    modify fun r => r.bind kind operation (some m)
    bindInPlace m rest

/-- Register a module step by step: check the lock, the name and the declarations, then enter the
declarations and the module. -/
def registerInPlace (m : OperationModule) : InPlace Unit := do
  let r ← get
  if r.locked then throw (.rejected .registryLocked)
  else if (r.module? m.name).isSome then throw (.rejected (.moduleRegistered m.name))
  else
    checkInPlace m .empty m.declarations
    bindInPlace m m.declarations
    modify fun r => { r with modules := r.modules.put m.name m }

/-- Checking writes nothing. -/
theorem exec_checkInPlace (seen : Table String Int) : Steps.exec (checkInPlace m seen ds) r =
    (match r.declarationConflict? m seen ds with
      | some e => .error (.rejected e)
      | none => .ok (), r) := by
  induction ds generalizing seen with
  | nil => rfl
  | cons d ds ih =>
    obtain ⟨kind, operation⟩ := d
    simp only [checkInPlace, declarationConflict?, Steps.exec_bind, Steps.exec_get]
    cases r.conflict? kind operation (some m) with
    | some e => rfl
    | none =>
      cases seen.get? operation with
      | some existing => rfl
      | none => exact ih (seen.put operation kind)

theorem exec_bindInPlace : Steps.exec (bindInPlace m ds) r = (.ok (), r.bindAll m ds) := by
  induction ds generalizing r with
  | nil => rfl
  | cons d ds ih => exact ih (r := r.bind d.1 d.2 (some m))

/-- The registry in place ends as the one that is registered to, or as it was. -/
theorem exec_registerInPlace (r : Registry) (m : OperationModule) : (registerInPlace m).exec r =
    match r.registerModule m with
    | .ok r' => (.ok (), r')
    | .error e => (.error e, r) := by
  -- Every fault comes from a check, and all checks stand before the first write.
  unfold registerModule registerInPlace
  rw [InPlace.exec_eq, Steps.exec_bind, Steps.exec_get]
  dsimp only
  by_cases locked : r.locked = true
  · rw [if_pos locked, if_pos locked, Steps.exec_throw]
  by_cases named : (r.module? m.name).isSome = true
  · rw [if_neg locked, if_neg locked, if_pos named, if_pos named, Steps.exec_throw]
  rw [if_neg locked, if_neg locked, if_neg named, if_neg named, Steps.exec_bind,
    exec_checkInPlace]
  cases r.declarationConflict? m .empty m.declarations with
  | some e => rfl
  | none =>
    dsimp only
    rw [Steps.exec_bind, exec_bindInPlace]
    exact Steps.exec_modify _ _

theorem judged_registerModule (r : Registry) (m : OperationModule) :
    Judged (r.registerModule m) := by
  refine judged_ite (judged_rejected _) (judged_ite (judged_rejected _) ?_)
  cases r.declarationConflict? m .empty m.declarations with
  | some q => exact judged_rejected q
  | none => exact judged_ok _

/-- Registering a module fails exactly when something stands against it, and always by a rejection.
The registry, though changed in place, is then as it was; otherwise it has gone on with all pairs of
the module and the module itself, and with nothing else. -/
theorem registerModule_all_or_nothing (r : Registry) (m : OperationModule) :
    (r.Obstacle m ∧ ∃ q, r.registerModule m = .error (.rejected q) ∧
        (registerInPlace m).exec r = (.error (.rejected q), r)) ∨
      (¬ r.Obstacle m ∧ ∃ r', r.registerModule m = .ok r' ∧
        (registerInPlace m).exec r = (.ok (), r') ∧ r.Grown m r') := by
  have in_place := exec_registerInPlace r m
  obtain ⟨r', accepted⟩ | ⟨q, refused⟩ := judged_registerModule r m
  · obtain ⟨unlocked, fresh, free, single, rfl⟩ := registerModule_eq_ok_iff.1 accepted
    rw [accepted] at in_place
    exact .inr ⟨not_obstacle_iff.2 ⟨unlocked, fresh, free, single⟩, _, accepted, in_place,
      grown_enroll fresh free single⟩
  · rw [refused] at in_place
    refine .inl ⟨?_, q, refused, in_place⟩
    by_contra clear
    obtain ⟨unlocked, fresh, free, single⟩ := not_obstacle_iff.1 clear
    cases refused.symm.trans (registerModule_eq_ok_iff.2 ⟨unlocked, fresh, free, single, rfl⟩)

end Registry

end SubspaceOps

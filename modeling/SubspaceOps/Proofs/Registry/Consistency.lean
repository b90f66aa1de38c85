import SubspaceOps.Registry.Basic

/-!
# Consistency of registries

The four tables of a registry fit together after every run of requests, whichever of them are
refused. A request is inverted once (`attempt_cases`): an accepted one enters a pair without
conflict, a module all of whose declarations are without conflict, or the lock. Consistency is
kept by each of the three, hence by runs.
-/
namespace SubspaceOps.Registry

variable {r r' : Registry} {m : OperationModule} {kind : Int} {operation : String}
  {owner : Option OperationModule} {ds : List (Int × String)}

/-! ## What an accepted request does -/

theorem conflict?_eq_none_iff :
    r.conflict? kind operation owner = none ↔
      (∀ o, r.operation? kind = some o → o = operation) ∧
        (∀ k, r.kind? operation = some k → k = kind) ∧
          ∀ new, owner = some new → ∀ current, r.owner? kind = some current → current = new := by
  have same_operation : (r.operation? kind).filter (· ≠ operation) = none ↔
      ∀ o, r.operation? kind = some o → o = operation := by simp [Option.filter_eq_none_iff]
  have same_kind : (r.kind? operation).filter (· ≠ kind) = none ↔
      ∀ k, r.kind? operation = some k → k = kind := by simp [Option.filter_eq_none_iff]
  rw [← same_operation, ← same_kind]
  unfold conflict?
  cases (r.operation? kind).filter (· ≠ operation) with
  | some o => simp
  | none =>
    cases (r.kind? operation).filter (· ≠ kind) with
    | some k => simp
    | none => cases owner <;> cases r.owner? kind <;> simp

/-- A pair that is entered leaves pairs of another kind and another operation alone. -/
theorem conflict?_bind_of_ne {k : Int} {o : String} {other : Option OperationModule}
    (hk : k ≠ kind) (ho : o ≠ operation) :
    (r.bind kind operation owner).conflict? k o other = r.conflict? k o other := by
  simp only [conflict?, operation?_bind, kind?_bind, owner?_bind, if_neg hk, if_neg ho]

theorem declarationConflict?_eq_none_iff {seen : Table String Int} :
    r.declarationConflict? m seen ds = none ↔
      (∀ d ∈ ds, r.conflict? d.1 d.2 (some m) = none) ∧ (ds.map Prod.snd).Nodup ∧
        ∀ d ∈ ds, seen.get? d.2 = none := by
  induction ds generalizing seen with
  | nil => simp [declarationConflict?]
  | cons d ds ih =>
    unfold declarationConflict?
    cases hc : r.conflict? d.1 d.2 (some m) with
    | some e => simp [hc]
    | none =>
      cases hs : seen.get? d.2 with
      | some k => simp [hs]
      | none =>
        simp only [ih, List.forall_mem_cons, hc, hs, List.map_cons, List.nodup_cons, true_and,
          Table.get?_put]
        constructor
        · rintro ⟨free, nodup, fresh⟩
          refine ⟨free, ⟨?_, nodup⟩, fun e he => ?_⟩
          · intro hm
            obtain ⟨e, he, hed⟩ := List.mem_map.1 hm
            simpa [hed] using fresh e he
          · have := fresh e he
            split at this
            · cases this
            · exact this
        · rintro ⟨free, ⟨hd, nodup⟩, fresh⟩
          refine ⟨free, nodup, fun e he => ?_⟩
          have hne : e.2 ≠ d.2 := fun hed => hd (hed ▸ List.mem_map_of_mem he)
          rw [if_neg hne]
          exact fresh e he

theorem register_eq_ok_iff :
    r.register kind operation owner = .ok r' ↔
      r.locked = false ∧ r.conflict? kind operation owner = none ∧
        r' = r.bind kind operation owner := by
  unfold register
  cases r.locked <;> cases r.conflict? kind operation owner <;> simp [eq_comm]

theorem registerModule_eq_ok_iff :
    r.registerModule m = .ok r' ↔
      r.locked = false ∧ r.module? m.name = none ∧
        (∀ d ∈ m.declarations, r.conflict? d.1 d.2 (some m) = none) ∧
          (m.declarations.map Prod.snd).Nodup ∧ r' = r.enroll m := by
  have checked : r.declarationConflict? m .empty m.declarations = none ↔
      (∀ d ∈ m.declarations, r.conflict? d.1 d.2 (some m) = none) ∧
        (m.declarations.map Prod.snd).Nodup := by
    simp [declarationConflict?_eq_none_iff]
  rw [← and_assoc (b := (m.declarations.map Prod.snd).Nodup), ← checked]
  unfold registerModule
  cases r.locked with
  | true => simp
  | false =>
    cases r.module? m.name with
    | some m' => simp
    | none => cases r.declarationConflict? m .empty m.declarations <;> simp [eq_comm]

/-- What a request does that is not refused. -/
theorem attempt_cases {q : Request} (h : r.attempt q = .ok r') :
    (∃ kind operation owner, q = .pair kind operation owner ∧ r.locked = false ∧
        r.conflict? kind operation owner = none ∧ r' = r.bind kind operation owner) ∨
      (∃ m, q = .whole m ∧ r.locked = false ∧ r.module? m.name = none ∧
        (∀ d ∈ m.declarations, r.conflict? d.1 d.2 (some m) = none) ∧
          (m.declarations.map Prod.snd).Nodup ∧ r' = r.enroll m) ∨
        (q = .lock ∧ r' = r.lock) := by
  cases q with
  | pair kind operation owner =>
    exact .inl ⟨kind, operation, owner, rfl, register_eq_ok_iff.1 h⟩
  | whole m => exact .inr (.inl ⟨m, rfl, registerModule_eq_ok_iff.1 h⟩)
  | lock =>
    cases h
    exact .inr (.inr ⟨rfl, rfl⟩)

/-- What is kept by accepted requests holds after every list of requests. -/
theorem steps_induction {P : Registry → Prop} (start : P r)
    (keep : ∀ r q r', P r → r.attempt q = .ok r' → P r') (qs : List Request) :
    P (qs.foldl step r) := by
  induction qs generalizing r with
  | nil => exact start
  | cons q qs ih =>
    apply ih
    cases ha : r.attempt q with
    | ok r' =>
      rw [step_of_attempt_eq_ok ha]
      exact keep r q r' start ha
    | error e =>
      rw [step_of_attempt_eq_error ha]
      exact start

/-- What holds of the empty registry and is kept by accepted requests holds after every run. -/
theorem run_induction {P : Registry → Prop} (start : P empty)
    (keep : ∀ r q r', P r → r.attempt q = .ok r' → P r') (qs : List Request) : P (run qs) :=
  steps_induction start keep qs

/-! ## Entering the declarations of a module -/

theorem operation?_bindAll_of_not_mem (h : kind ∉ ds.map Prod.fst) :
    (r.bindAll m ds).operation? kind = r.operation? kind := by
  induction ds generalizing r with
  | nil => rfl
  | cons d ds ih =>
    simp only [List.map_cons, List.mem_cons, not_or] at h
    change ((r.bind d.1 d.2 (some m)).bindAll m ds).operation? kind = _
    rw [ih h.2, operation?_bind, if_neg h.1]

theorem operation?_bindAll_of_mem (nodup : (ds.map Prod.fst).Nodup) {d : Int × String}
    (h : d ∈ ds) : (r.bindAll m ds).operation? d.1 = some d.2 := by
  induction ds generalizing r with
  | nil => cases h
  | cons e ds ih =>
    rw [List.map_cons, List.nodup_cons] at nodup
    change ((r.bind e.1 e.2 (some m)).bindAll m ds).operation? d.1 = _
    rcases List.mem_cons.1 h with rfl | h
    · rw [operation?_bindAll_of_not_mem nodup.1, operation?_bind, if_pos rfl]
    · exact ih nodup.2 h

theorem owner?_bindAll :
    (r.bindAll m ds).owner? kind = if kind ∈ ds.map Prod.fst then some m else r.owner? kind := by
  induction ds generalizing r with
  | nil => rfl
  | cons d ds ih =>
    change ((r.bind d.1 d.2 (some m)).bindAll m ds).owner? kind = _
    rw [ih, owner?_bind]
    by_cases h : kind ∈ ds.map Prod.fst <;> by_cases h' : kind = d.1 <;> simp [h, h']

/-- Declarations that are all checked beforehand can be entered one after the other: each leaves
the others without conflict. So they keep what an entered pair keeps. -/
theorem bindAll_induction {P : Registry → Prop} (start : P r)
    (keep : ∀ r kind operation, P r → r.conflict? kind operation (some m) = none →
      P (r.bind kind operation (some m)))
    (free : ∀ d ∈ ds, r.conflict? d.1 d.2 (some m) = none)
    (kinds_nodup : (ds.map Prod.fst).Nodup) (operations_nodup : (ds.map Prod.snd).Nodup) :
    P (r.bindAll m ds) := by
  induction ds generalizing r with
  | nil => exact start
  | cons d ds ih =>
    rw [List.map_cons, List.nodup_cons] at kinds_nodup operations_nodup
    refine ih (keep r d.1 d.2 start (free d List.mem_cons_self)) (fun e he => ?_) kinds_nodup.2
      operations_nodup.2
    have hk : e.1 ≠ d.1 := fun hed => kinds_nodup.1 (hed ▸ List.mem_map_of_mem he)
    have ho : e.2 ≠ d.2 := fun hed => operations_nodup.1 (hed ▸ List.mem_map_of_mem he)
    rw [conflict?_bind_of_ne hk ho]
    exact free e (List.mem_cons_of_mem d he)

theorem modules_bindAll :
    (r.bindAll m ds).modules = r.modules ∧ (r.bindAll m ds).locked = r.locked := by
  induction ds generalizing r with
  | nil => exact ⟨rfl, rfl⟩
  | cons d ds ih => exact ih (r := r.bind d.1 d.2 (some m))

theorem module?_enroll (name : String) :
    (r.enroll m).module? name = if name = m.name then some m else r.module? name := by
  change ((r.bindAll m m.declarations).modules.put m.name m).get? name = _
  rw [modules_bindAll.1]
  exact r.modules.get?_put m.name name m

/-! ## The invariant -/

/-- The tables of the registry fit together. -/
structure Consistent (r : Registry) : Prop where
  inverse : ∀ kind operation, r.operation? kind = some operation ↔ r.kind? operation = some kind
  registered : ∀ kind m, r.owner? kind = some m → ∃ operation, r.operation? kind = some operation
  enrolled : ∀ name m, r.module? name = some m → m.name = name ∧
    ∀ d ∈ m.declarations, r.operation? d.1 = some d.2 ∧ r.owner? d.1 = some m

theorem consistent_empty : empty.Consistent where
  inverse _ _ := ⟨nofun, nofun⟩
  registered _ _ := nofun
  enrolled _ _ := nofun

namespace Consistent

theorem bind (h : r.Consistent) (free : r.conflict? kind operation owner = none) :
    (r.bind kind operation owner).Consistent := by
  obtain ⟨same_operation, same_kind, same_owner⟩ := conflict?_eq_none_iff.1 free
  constructor
  · intro k o
    rw [operation?_bind, kind?_bind]
    -- A pair that shares one half only with the new one would have been a conflict.
    by_cases hk : k = kind <;> by_cases ho : o = operation
    · simp [hk, ho]
    · subst hk
      simp only [if_true, if_neg ho, Option.some.injEq, ← h.inverse]
      exact ⟨fun e => absurd e.symm ho, fun e => absurd (same_operation o e) ho⟩
    · subst ho
      simp only [if_true, if_neg hk, Option.some.injEq, h.inverse]
      exact ⟨fun e => absurd (same_kind k e) hk, fun e => absurd e.symm hk⟩
    · simp only [if_neg hk, if_neg ho]
      exact h.inverse k o
  · intro k m hm
    rw [owner?_bind] at hm
    rw [operation?_bind]
    split at hm
    · next hk => exact ⟨operation, if_pos hk⟩
    · next hk =>
      rw [if_neg hk]
      exact h.registered k m hm
  · intro name m hm
    obtain ⟨named, declared⟩ := h.enrolled name m hm
    refine ⟨named, fun d hd => ?_⟩
    obtain ⟨bound, owned⟩ := declared d hd
    rw [operation?_bind, owner?_bind]
    by_cases hk : d.1 = kind
    · subst hk
      rw [if_pos rfl, if_pos rfl, same_operation d.2 bound]
      cases owner with
      | none => exact ⟨rfl, owned⟩
      | some new => exact ⟨rfl, by rw [same_owner new rfl m owned]; rfl⟩
    · rw [if_neg hk, if_neg hk]
      exact ⟨bound, owned⟩

theorem enroll (h : r.Consistent)
    (free : ∀ d ∈ m.declarations, r.conflict? d.1 d.2 (some m) = none)
    (operations_nodup : (m.declarations.map Prod.snd).Nodup) : (r.enroll m).Consistent := by
  have entered : (r.bindAll m m.declarations).Consistent :=
    bindAll_induction h (fun _ _ _ h free => h.bind free) free m.kinds.nodup operations_nodup
  refine ⟨entered.inverse, entered.registered, fun name m' hm => ?_⟩
  change (Table.put _ m.name m).get? name = some m' at hm
  rw [Table.get?_put] at hm
  split at hm
  · next hname =>
    cases hm
    refine ⟨hname.symm, fun d hd => ⟨operation?_bindAll_of_mem m.kinds.nodup hd, ?_⟩⟩
    change (r.bindAll m m.declarations).owner? d.1 = some m
    rw [owner?_bindAll, if_pos (List.mem_map_of_mem hd)]
  · exact entered.enrolled name m' hm

theorem attempt (h : r.Consistent) {q : Request} (ha : r.attempt q = .ok r') :
    r'.Consistent := by
  obtain ⟨_, _, _, -, -, free, rfl⟩ | ⟨m, -, -, -, free, nodup, rfl⟩ | ⟨-, rfl⟩ :=
    attempt_cases ha
  · exact h.bind free
  · exact h.enroll free nodup
  · exact ⟨h.inverse, h.registered, h.enrolled⟩

end Consistent

theorem consistent_run (qs : List Request) : (run qs).Consistent :=
  run_induction consistent_empty (fun _ _ _ h ha => h.attempt ha) qs

theorem Reachable.consistent (h : r.Reachable) : r.Consistent := by
  obtain ⟨qs, rfl⟩ := h
  exact consistent_run qs

/-! ## The way from a record type to a kind and back -/

/-- The operation of a record type has a kind, whose owner implements the operation by this type. -/
structure Routes (r : Registry) (t : RecordType) (kind : Int) : Prop where
  found : r.kind? t.operation = some kind
  named : r.operation? kind = some t.operation
  owned : ∃ m, r.owner? kind = some m ∧ m.recordType? t.operation = some t

namespace Consistent

variable {t : RecordType}

theorem routes_of_owner (h : r.Consistent) (hk : r.kind? t.operation = some kind)
    (ho : r.owner? kind = some m) (ht : m.recordType? t.operation = some t) : r.Routes t kind :=
  ⟨hk, (h.inverse kind t.operation).2 hk, m, ho, ht⟩

theorem exists_routes_of_module (h : r.Consistent) (hm : r.module? m.name = some m)
    (ht : m.recordType? t.operation = some t) : ∃ kind, r.Routes t kind := by
  obtain ⟨d, hd, hoperation⟩ :=
    List.mem_map.1 (m.declared t (OperationModule.mem_records_of_recordType? ht).1)
  obtain ⟨bound, owner⟩ := (h.enrolled m.name m hm).2 d hd
  rw [hoperation] at bound
  exact ⟨d.1, h.routes_of_owner ((h.inverse d.1 t.operation).1 bound) owner ht⟩

end Consistent

/-! ## Agreement of the look-ups -/

/-- After every run of requests, accepted or refused, kinds and operations are related one to one,
owned kinds are registered, and every module stands under its name with all its declarations.
Decoding never has to choose: one kind has one operation and one owner, and no other kind has this
operation. -/
theorem lookups_agree_of_run (qs : List Request) :
    (∀ kind operation,
        (run qs).operation? kind = some operation ↔ (run qs).kind? operation = some kind) ∧
      (∀ kind m, (run qs).owner? kind = some m →
        ∃ operation, (run qs).operation? kind = some operation ∧ (run qs).contains kind = true) ∧
      (∀ name m, (run qs).module? name = some m → m.name = name ∧
        ∀ kind operation, (kind, operation) ∈ m.declarations →
          (run qs).operation? kind = some operation ∧ (run qs).owner? kind = some m) ∧
      ∀ kind kind' operation, (run qs).operation? kind = some operation →
        (run qs).operation? kind' = some operation → kind = kind' := by
  have h := consistent_run qs
  refine ⟨h.inverse, ?_, ?_, ?_⟩
  · intro kind m hm
    obtain ⟨operation, ho⟩ := h.registered kind m hm
    refine ⟨operation, ho, ?_⟩
    change ((run qs).operation? kind).isSome = true
    rw [ho, Option.isSome_some]
  · intro name m hm
    obtain ⟨named, declared⟩ := h.enrolled name m hm
    exact ⟨named, fun kind operation hd => declared (kind, operation) hd⟩
  · intro kind kind' operation hk hk'
    have := (h.inverse kind operation).1 hk
    rw [(h.inverse kind' operation).1 hk'] at this
    exact (Option.some.inj this).symm

end SubspaceOps.Registry

import SubspaceOps.Catalogue
import SubspaceOps.Proofs.Faults
import SubspaceOps.Proofs.Registry.Consistency

/-!
# Orders of registration

A registry holds exactly the pairs and modules that were entered, and it refuses a request exactly
when the request does not go together with one that was accepted before (`attempt_isOk_iff`). To go
together is symmetric, so requests that are all accepted in one order are accepted in every order,
and the registries answer alike (`sameAnswers_of_perm`).
-/
namespace SubspaceOps.Registry

variable {r r' : Registry} {m : OperationModule}

/-! ## Pairs that go together -/

/-- A pair that is entered, with its owner if it names one. -/
structure Pairing where
  kind : Int
  operation : String
  owner : Option OperationModule

/-- Two pairs share both halves or none, and pairs of one kind name no different owners. -/
structure Pairing.Compatible (p q : Pairing) : Prop where
  halves : p.kind = q.kind ↔ p.operation = q.operation
  owners : p.kind = q.kind → ∀ a b, p.owner = some a → q.owner = some b → a = b

namespace Pairing

variable {p q : Pairing}

theorem Compatible.symm (h : p.Compatible q) : q.Compatible p where
  halves := by rw [eq_comm, h.halves, eq_comm]
  owners same a b ha hb := (h.owners same.symm b a hb ha).symm

theorem compatible_of_ne (kinds : p.kind ≠ q.kind) (operations : p.operation ≠ q.operation) :
    p.Compatible q :=
  ⟨⟨fun h => absurd h kinds, fun h => absurd h operations⟩, fun h => absurd h kinds⟩

/-- The pair that a module declares. -/
def ofDeclaration (m : OperationModule) (d : Int × String) : Pairing := ⟨d.1, d.2, some m⟩

end Pairing

/-! ## Registries of given pairs -/

/-- The tables of pairs and owners hold the given pairs and nothing else. -/
structure Holds (r : Registry) (ps : List Pairing) : Prop where
  operation : ∀ k o, r.operation? k = some o ↔ ∃ p ∈ ps, p.kind = k ∧ p.operation = o
  kind : ∀ o k, r.kind? o = some k ↔ ∃ p ∈ ps, p.kind = k ∧ p.operation = o
  owner : ∀ k m, r.owner? k = some m ↔ ∃ p ∈ ps, p.kind = k ∧ p.owner = some m

theorem holds_empty : empty.Holds [] where
  operation k o := ⟨nofun, fun h => by simp at h⟩
  kind o k := ⟨nofun, fun h => by simp at h⟩
  owner k m := ⟨nofun, fun h => by simp at h⟩

namespace Holds

variable {ps : List Pairing} {q : Pairing}

theorem conflict?_eq_none_iff (h : r.Holds ps) :
    r.conflict? q.kind q.operation q.owner = none ↔ ∀ p ∈ ps, p.Compatible q := by
  rw [Registry.conflict?_eq_none_iff]
  constructor
  · rintro ⟨same_operation, same_kind, same_owner⟩ p hp
    refine ⟨⟨fun hk => ?_, fun ho => ?_⟩, fun hk a b ha hb => ?_⟩
    · exact same_operation _ ((h.operation _ _).2 ⟨p, hp, hk, rfl⟩)
    · exact same_kind _ ((h.kind _ _).2 ⟨p, hp, rfl, ho⟩)
    · exact same_owner b hb a ((h.owner _ _).2 ⟨p, hp, hk, ha⟩)
  · intro compatible
    refine ⟨fun o ho => ?_, fun k hk => ?_, fun b hb a ha => ?_⟩
    · obtain ⟨p, hp, same, rfl⟩ := (h.operation _ _).1 ho
      exact (compatible p hp).halves.1 same
    · obtain ⟨p, hp, rfl, same⟩ := (h.kind _ _).1 hk
      exact (compatible p hp).halves.2 same
    · obtain ⟨p, hp, same, owned⟩ := (h.owner _ _).1 ha
      exact (compatible p hp).owners same a b owned hb

theorem bind (h : r.Holds ps) (free : ∀ p ∈ ps, p.Compatible q) :
    (r.bind q.kind q.operation q.owner).Holds (ps ++ [q]) := by
  have split {P : Pairing → Prop} : (∃ p ∈ ps ++ [q], P p) ↔ (∃ p ∈ ps, P p) ∨ P q := by
    simp only [List.mem_append, List.mem_singleton, or_and_right, exists_or, exists_eq_left]
  refine ⟨fun k o => ?_, fun o k => ?_, fun k m => ?_⟩
  · rw [operation?_bind, split, ← h.operation]
    by_cases hk : k = q.kind
    · subst hk
      have same : r.operation? q.kind = some o → q.operation = o := by
        intro ho
        obtain ⟨p, hp, hk, rfl⟩ := (h.operation _ _).1 ho
        exact ((free p hp).halves.1 hk).symm
      simpa using same
    · simp [hk, Ne.symm hk]
  · rw [kind?_bind, split, ← h.kind]
    by_cases ho : o = q.operation
    · subst ho
      have same : r.kind? q.operation = some k → q.kind = k := by
        intro hk
        obtain ⟨p, hp, rfl, ho⟩ := (h.kind _ _).1 hk
        exact ((free p hp).halves.2 ho).symm
      simpa using same
    · simp [ho, Ne.symm ho]
  · rw [owner?_bind, split, ← h.owner]
    by_cases hk : k = q.kind
    · subst hk
      have same : ∀ a, q.owner = some a → r.owner? q.kind = some m → a = m := by
        intro a ha hm
        obtain ⟨p, hp, hk, owned⟩ := (h.owner _ _).1 hm
        exact ((free p hp).owners hk m a owned ha).symm
      cases ha : q.owner with
      | none => simp
      | some a => simpa using same a ha
    · simp [hk, Ne.symm hk]

theorem bindAll (h : r.Holds ps) {ds : List (Int × String)}
    (free : ∀ d ∈ ds, ∀ p ∈ ps, p.Compatible (.ofDeclaration m d))
    (kinds_nodup : (ds.map Prod.fst).Nodup) (operations_nodup : (ds.map Prod.snd).Nodup) :
    (r.bindAll m ds).Holds (ps ++ ds.map (.ofDeclaration m)) := by
  induction ds generalizing r ps with
  | nil =>
    rw [List.map_nil, List.append_nil]
    exact h
  | cons d ds ih =>
    rw [List.map_cons, List.nodup_cons] at kinds_nodup operations_nodup
    rw [List.forall_mem_cons] at free
    have apart : ∀ e ∈ ds, (Pairing.ofDeclaration m d).Compatible (.ofDeclaration m e) := by
      intro e he
      refine Pairing.compatible_of_ne (fun hk => ?_) fun ho => ?_
      · exact kinds_nodup.1 (List.mem_map.2 ⟨e, he, hk.symm⟩)
      · exact operations_nodup.1 (List.mem_map.2 ⟨e, he, ho.symm⟩)
    have free_behind : ∀ e ∈ ds, ∀ p ∈ ps ++ [.ofDeclaration m d],
        p.Compatible (.ofDeclaration m e) := by
      intro e he p hp
      rcases List.mem_append.1 hp with hp | hp
      · exact free.2 e he p hp
      · exact List.mem_singleton.1 hp ▸ apart e he
    rw [List.map_cons, List.append_cons]
    exact ih (h.bind (q := .ofDeclaration m d) free.1) free_behind kinds_nodup.2 operations_nodup.2

end Holds

/-! ## Requests that go together -/

namespace Request

/-- The pairs that a request enters. -/
def pairings : Request → List Pairing
  | pair kind operation owner => [⟨kind, operation, owner⟩]
  | whole m => m.declarations.map (.ofDeclaration m)
  | lock => []

/-- The module that a request enters. -/
def module? : Request → Option OperationModule
  | whole m => some m
  | _ => none

/-- A module declares no operation twice. -/
def Sound (q : Request) : Prop := ∀ m, q.module? = some m → (m.declarations.map Prod.snd).Nodup

/-- The pairs of two requests go together, and their modules differ in name. -/
structure Agrees (q q' : Request) : Prop where
  pairings : ∀ p ∈ q.pairings, ∀ p' ∈ q'.pairings, p.Compatible p'
  modules : ∀ m m', q.module? = some m → q'.module? = some m' → m.name ≠ m'.name

theorem Agrees.symm {q q' : Request} (h : q.Agrees q') : q'.Agrees q where
  pairings p hp p' hp' := (h.pairings p' hp' p hp).symm
  modules m m' hm hm' := (h.modules m' m hm' hm).symm

end Request

/-- The registry is open and holds what the requests enter, and nothing else. -/
structure Describes (r : Registry) (qs : List Request) : Prop where
  holds : r.Holds (qs.flatMap Request.pairings)
  modules : ∀ name m, r.module? name = some m ↔ m ∈ qs.filterMap Request.module? ∧ m.name = name
  unlocked : r.locked = false

theorem describes_empty : empty.Describes [] where
  holds := holds_empty
  modules _ _ := ⟨nofun, fun h => by simp at h⟩
  unlocked := rfl

namespace Describes

variable {done qs : List Request} {q : Request}

theorem forall_agrees_iff : (∀ d ∈ done, d.Agrees q) ↔
    (∀ p ∈ done.flatMap Request.pairings, ∀ p' ∈ q.pairings, p.Compatible p') ∧
      ∀ m ∈ done.filterMap Request.module?, ∀ m', q.module? = some m' → m.name ≠ m'.name := by
  constructor
  · intro h
    refine ⟨fun p hp p' hp' => ?_, fun m hm m' hm' => ?_⟩
    · obtain ⟨d, hd, hp⟩ := List.mem_flatMap.1 hp
      exact (h d hd).pairings p hp p' hp'
    · obtain ⟨d, hd, hm⟩ := List.mem_filterMap.1 hm
      exact (h d hd).modules m m' hm hm'
  · rintro ⟨pairings, modules⟩ d hd
    refine ⟨fun p hp => pairings p (List.mem_flatMap.2 ⟨d, hd, hp⟩), fun m m' hm => ?_⟩
    exact modules m (List.mem_filterMap.2 ⟨d, hd, hm⟩) m'

/-- A request is accepted exactly when it goes together with all that were accepted before. -/
theorem attempt_isOk_iff (h : r.Describes done) (registers : q ≠ .lock) :
    (∃ r', r.attempt q = .ok r') ↔ q.Sound ∧ ∀ d ∈ done, d.Agrees q := by
  rw [forall_agrees_iff]
  cases q with
  | lock => exact absurd rfl registers
  | pair kind operation owner =>
    have free := h.holds.conflict?_eq_none_iff (q := ⟨kind, operation, owner⟩)
    simp [attempt, register_eq_ok_iff, h.unlocked, Request.Sound, Request.module?,
      Request.pairings, free]
  | whole m =>
    have fresh : r.module? m.name = none ↔
        ∀ m' ∈ done.filterMap Request.module?, m'.name ≠ m.name := by
      rw [Option.eq_none_iff_forall_ne_some]
      exact ⟨fun h' m' hm' e => h' m' ((h.modules _ _).2 ⟨hm', e⟩),
        fun h' m' hm' => h' m' ((h.modules _ _).1 hm').1 ((h.modules _ _).1 hm').2⟩
    have free : (∀ d ∈ m.declarations, r.conflict? d.1 d.2 (some m) = none) ↔
        ∀ d ∈ m.declarations, ∀ p ∈ done.flatMap Request.pairings,
          p.Compatible (.ofDeclaration m d) :=
      forall₂_congr fun d _ => h.holds.conflict?_eq_none_iff (q := .ofDeclaration m d)
    simp only [attempt, registerModule_eq_ok_iff, h.unlocked, fresh, free, Request.Sound,
      Request.module?, Request.pairings, List.forall_mem_map, true_and, exists_and_left,
      exists_eq, and_true, Option.some.injEq, forall_eq']
    constructor
    · rintro ⟨names, compatible, nodup⟩
      exact ⟨nodup, fun p hp d hd => compatible d hd p hp, names⟩
    · rintro ⟨nodup, compatible, names⟩
      exact ⟨names, fun d hd p hp => compatible p hp d hd, nodup⟩

theorem attempt (h : r.Describes done) (registers : q ≠ .lock) (accepted : r.attempt q = .ok r') :
    r'.Describes (done ++ [q]) := by
  obtain ⟨sound, agrees⟩ := (h.attempt_isOk_iff registers).1 ⟨r', accepted⟩
  obtain ⟨compatible, -⟩ := forall_agrees_iff.1 agrees
  obtain ⟨kind, operation, owner, rfl, unlocked, -, rfl⟩ | ⟨m, rfl, unlocked, fresh, -, -, rfl⟩ |
    ⟨rfl, -⟩ := attempt_cases accepted
  · have entered := h.holds.bind (q := ⟨kind, operation, owner⟩) fun p hp =>
      compatible p hp _ List.mem_cons_self
    have known (name : String) : (r.bind kind operation owner).module? name = r.module? name := rfl
    refine ⟨?_, fun name m => ?_, unlocked⟩
    · simpa [Request.pairings] using entered
    · simpa [Request.module?, known] using h.modules name m
  · have bound := h.holds.bindAll (m := m)
      (fun d hd p hp => compatible p hp _ (List.mem_map_of_mem hd)) m.kinds.nodup (sound m rfl)
    have entered : (r.enroll m).Holds
        (done.flatMap Request.pairings ++ m.declarations.map (.ofDeclaration m)) :=
      ⟨bound.operation, bound.kind, bound.owner⟩
    refine ⟨?_, fun name m' => ?_, modules_bindAll.2.trans unlocked⟩
    · simpa [Request.pairings] using entered
    · have split : m' ∈ (done ++ [Request.whole m]).filterMap Request.module? ↔
          m' ∈ done.filterMap Request.module? ∨ m' = m := by
        simp [Request.module?]
      rw [module?_enroll, split, or_and_right, ← h.modules]
      by_cases hname : name = m.name
      · subst hname
        simp only [if_true, Option.some.injEq, fresh, reduceCtorEq, false_or]
        exact ⟨fun e => ⟨e.symm, e ▸ rfl⟩, fun e => e.1.symm⟩
      · have other : ¬ (m' = m ∧ m'.name = name) := fun e => hname (e.1 ▸ e.2.symm)
        simp only [if_neg hname, other, or_false]
  · exact absurd rfl registers

/-- A list of requests is accepted exactly when each goes together with those before the list and
with the others in the list. -/
theorem foldlM_isOk_iff (h : r.Describes done) (registers : .lock ∉ qs) :
    (∃ r', qs.foldlM Registry.attempt r = .ok r') ↔
      (∀ q ∈ qs, q.Sound) ∧ qs.Pairwise Request.Agrees ∧ ∀ q ∈ qs, ∀ d ∈ done, d.Agrees q := by
  induction qs generalizing r done with
  | nil => simp [pure, Except.pure]
  | cons q qs ih =>
    rw [List.mem_cons, not_or] at registers
    have first := h.attempt_isOk_iff (Ne.symm registers.1)
    have rest {s : Registry} (hs : r.attempt q = .ok s) :=
      ih (h.attempt (Ne.symm registers.1) hs) registers.2
    simp only [List.foldlM_cons, bind_eq_ok_iff, List.forall_mem_cons, List.pairwise_cons]
    constructor
    · rintro ⟨r', s, hs, hr'⟩
      obtain ⟨sound, agrees⟩ := first.1 ⟨s, hs⟩
      obtain ⟨sounds, pairwise, before⟩ := (rest hs).1 ⟨r', hr'⟩
      exact ⟨⟨sound, sounds⟩, ⟨fun q' hq' => before q' hq' q (by simp), pairwise⟩, agrees,
        fun q' hq' d hd => before q' hq' d (by simp [hd])⟩
    · rintro ⟨⟨sound, sounds⟩, ⟨agrees_behind, pairwise⟩, agrees, before⟩
      obtain ⟨s, hs⟩ := first.2 ⟨sound, agrees⟩
      have all_before : ∀ q' ∈ qs, ∀ d ∈ done ++ [q], d.Agrees q' := by
        intro q' hq' d hd
        rcases List.mem_append.1 hd with hd | hd
        · exact before q' hq' d hd
        · exact List.mem_singleton.1 hd ▸ agrees_behind q' hq'
      obtain ⟨r', hr'⟩ := (rest hs).2 ⟨sounds, pairwise, all_before⟩
      exact ⟨r', s, hs, hr'⟩

theorem foldlM (h : r.Describes done) (registers : .lock ∉ qs)
    (accepted : qs.foldlM Registry.attempt r = .ok r') : r'.Describes (done ++ qs) := by
  induction qs generalizing r done with
  | nil =>
    cases accepted
    rw [List.append_nil]
    exact h
  | cons q qs ih =>
    rw [List.mem_cons, not_or] at registers
    rw [List.foldlM_cons] at accepted
    obtain ⟨s, first, rest⟩ := bind_eq_ok_iff.1 accepted
    rw [List.append_cons]
    exact ih (h.attempt (Ne.symm registers.1) first) registers.2 rest

end Describes

/-! ## Any order -/

/-- Two registries answer every look-up alike. -/
structure SameAnswers (r r' : Registry) : Prop where
  operation : ∀ kind, r.operation? kind = r'.operation? kind
  kind : ∀ operation, r.kind? operation = r'.kind? operation
  owner : ∀ kind, r.owner? kind = r'.owner? kind
  module : ∀ name, r.module? name = r'.module? name
  contains : ∀ kind, r.contains kind = r'.contains kind
  size : r.size = r'.size

/-- What a registry answers is decided by the set of the requests that it describes. -/
theorem Describes.sameAnswers {qs qs' : List Request} (perm : qs.Perm qs') (h : r.Describes qs)
    (h' : r'.Describes qs') : SameAnswers r r' := by
  have pairings : ∀ p, p ∈ qs.flatMap Request.pairings ↔ p ∈ qs'.flatMap Request.pairings :=
    fun _ => (perm.flatMap_right _).mem_iff
  have modules : ∀ m, m ∈ qs.filterMap Request.module? ↔ m ∈ qs'.filterMap Request.module? :=
    fun _ => (perm.filterMap _).mem_iff
  have operation : ∀ kind, r.operation? kind = r'.operation? kind := fun kind =>
    Option.ext fun o => by simp only [h.holds.operation, h'.holds.operation, pairings]
  exact {
    operation
    kind o := Option.ext fun k => by simp only [h.holds.kind, h'.holds.kind, pairings]
    owner k := Option.ext fun m => by simp only [h.holds.owner, h'.holds.owner, pairings]
    module name := Option.ext fun m => by simp only [h.modules, h'.modules, modules]
    contains k := congrArg Option.isSome (operation k)
    size := Table.size_eq_of_get?_eq operation }

/-- Registration requests that are all accepted by an empty registry in one order are all accepted
in every other order, and every look-up then has the same answer. -/
theorem sameAnswers_of_perm {qs qs' : List Request} (perm : qs.Perm qs')
    (registers : .lock ∉ qs) (accepted : qs.foldlM attempt empty = .ok r) :
    ∃ r', qs'.foldlM attempt empty = .ok r' ∧ SameAnswers r r' := by
  have registers' : .lock ∉ qs' := fun h => registers (perm.mem_iff.2 h)
  obtain ⟨sound, pairwise, -⟩ := (describes_empty.foldlM_isOk_iff registers).1 ⟨r, accepted⟩
  have sound' : ∀ q ∈ qs', q.Sound := fun q hq => sound q (perm.mem_iff.2 hq)
  have pairwise' : qs'.Pairwise Request.Agrees := (perm.pairwise_iff Request.Agrees.symm).1 pairwise
  obtain ⟨r', accepted'⟩ := (describes_empty.foldlM_isOk_iff registers').2
    ⟨sound', pairwise', fun _ _ => List.forall_mem_nil _⟩
  exact ⟨r', accepted', (describes_empty.foldlM registers accepted).sameAnswers perm
    (describes_empty.foldlM registers' accepted')⟩

/-- A pair without owner and the module that adopts its kind can be registered in either order. -/
theorem sameAnswers_vote : ∃ r',
    [.whole Governance.operations, .pair Kind.vote Operation.vote none].foldlM attempt empty =
      .ok r' ∧
      SameAnswers (run [.pair Kind.vote Operation.vote none, .whole Governance.operations]) r' :=
  sameAnswers_of_perm (.swap _ _ []) (by simp) rfl

end SubspaceOps.Registry

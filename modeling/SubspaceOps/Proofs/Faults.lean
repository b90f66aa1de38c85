import Mathlib.Data.List.Forall2
import SubspaceOps.Rejection

/-!
# Judgements and faults

An outcome judges its input when it is a value or a rejection; every other fault comes from below
the checks. Steps of which each one judges judge together, and they give a value when each one does.
A fold that stops does so at one element, behind elements that were all accepted; a list is read
when each of its elements is, and what stops the reading is the fault of one of them.
-/
namespace SubspaceOps

variable {α β ε : Type}

/-- The outcome is a value or a rejection. -/
def Judged (x : Except Fault α) : Prop := (∃ a, x = .ok a) ∨ ∃ q, x = .error (.rejected q)

theorem judged_ok (a : α) : Judged (.ok a) := .inl ⟨a, rfl⟩

theorem judged_rejected (q : Rejection) : Judged (.error (.rejected q) : Except Fault α) :=
  .inr ⟨q, rfl⟩

theorem Judged.bind {x : Except Fault α} {f : α → Except Fault β} (hx : Judged x)
    (hf : ∀ a, Judged (f a)) : Judged (x >>= f) := by
  obtain ⟨a, rfl⟩ | ⟨q, rfl⟩ := hx
  · exact hf a
  · exact judged_rejected q

theorem judged_ite {p : Prop} [Decidable p] {x y : Except Fault α} (hx : Judged x)
    (hy : Judged y) : Judged (if p then x else y) := by
  split
  · exact hx
  · exact hy

theorem judged_error_iff {f : Fault} :
    Judged (.error f : Except Fault α) ↔ ∃ q, f = .rejected q := by
  constructor
  · rintro (⟨a, h⟩ | ⟨q, h⟩)
    · cases h
    · exact ⟨q, Except.error.inj h⟩
  · rintro ⟨q, rfl⟩
    exact judged_rejected q

theorem bind_eq_ok_iff {x : Except ε α} {f : α → Except ε β} {b : β} :
    x >>= f = .ok b ↔ ∃ a, x = .ok a ∧ f a = .ok b := by
  cases x with
  | error e => exact ⟨nofun, nofun⟩
  | ok a =>
    constructor
    · exact fun h => ⟨a, rfl, h⟩
    · rintro ⟨_, ha, h⟩
      cases ha
      exact h

theorem map_eq_ok_iff {x : Except ε α} {f : α → β} {b : β} :
    x.map f = .ok b ↔ ∃ a, x = .ok a ∧ f a = b := by
  cases x <;> simp [Except.map]

theorem foldlM_eq_error_iff {f : β → α → Except ε β} {l : List α} {b : β} {e : ε} :
    l.foldlM f b = .error e ↔
      ∃ done a rest b', l = done ++ a :: rest ∧ done.foldlM f b = .ok b' ∧ f b' a = .error e := by
  induction l generalizing b with
  | nil =>
    constructor
    · intro h
      cases h
    · rintro ⟨done, a, rest, b', h, -⟩
      cases done <;> cases h
  | cons x xs ih =>
    rw [List.foldlM_cons]
    cases hx : f b x with
    | error e' =>
      constructor
      · intro h
        exact ⟨[], x, xs, b, rfl, rfl, hx.trans h⟩
      · rintro ⟨done, a, rest, b', hl, hdone, ha⟩
        cases done with
        | nil =>
          cases hl
          cases hdone
          exact hx.symm.trans ha
        | cons y ys =>
          cases hl
          rw [List.foldlM_cons, hx] at hdone
          cases hdone
    | ok b'' =>
      change xs.foldlM f b'' = .error e ↔ _
      rw [ih]
      constructor
      · rintro ⟨done, a, rest, b', rfl, hdone, ha⟩
        refine ⟨x :: done, a, rest, b', rfl, ?_, ha⟩
        rw [List.foldlM_cons, hx]
        exact hdone
      · rintro ⟨done, a, rest, b', hl, hdone, ha⟩
        cases done with
        | nil =>
          cases hl
          cases hdone
          cases hx.symm.trans ha
        | cons y ys =>
          cases hl
          rw [List.foldlM_cons, hx] at hdone
          exact ⟨ys, a, rest, b', rfl, hdone, ha⟩

theorem mapM_eq_ok_iff {f : α → Except ε β} {l : List α} {l' : List β} :
    l.mapM f = .ok l' ↔ List.Forall₂ (fun a b => f a = .ok b) l l' := by
  induction l generalizing l' with
  | nil =>
    rw [List.forall₂_nil_left_iff]
    constructor
    · rintro ⟨⟩
      rfl
    · rintro rfl
      rfl
  | cons a l ih =>
    rw [List.mapM_cons, bind_eq_ok_iff, List.forall₂_cons_left_iff]
    constructor
    · rintro ⟨b, ha, h⟩
      obtain ⟨bs, hl, ⟨⟩⟩ := bind_eq_ok_iff.1 h
      exact ⟨b, bs, ha, ih.1 hl, rfl⟩
    · rintro ⟨b, bs, ha, hl, rfl⟩
      exact ⟨b, ha, bind_eq_ok_iff.2 ⟨bs, ih.2 hl, rfl⟩⟩

theorem mapM_map_eq_ok {f : β → Except ε α} {g : α → β} (h : ∀ a, f (g a) = .ok a)
    (l : List α) : (l.map g).mapM f = .ok l :=
  mapM_eq_ok_iff.2 (List.forall₂_map_left_iff.2 (List.forall₂_same.2 fun a _ => h a))

theorem exists_of_mem_mapM {f : α → Except ε β} {l : List α} {l' : List β}
    (h : l.mapM f = .ok l') {b : β} (hb : b ∈ l') : ∃ a ∈ l, f a = .ok b := by
  induction mapM_eq_ok_iff.1 h with
  | nil => cases hb
  | cons ha hl ih =>
    rcases List.mem_cons.1 hb with rfl | hb
    · exact ⟨_, List.mem_cons_self, ha⟩
    · obtain ⟨a, hmem, hfa⟩ := ih (mapM_eq_ok_iff.2 hl) hb
      exact ⟨a, List.mem_cons_of_mem _ hmem, hfa⟩

theorem exists_mem_of_mapM {f : α → Except ε β} {l : List α} {l' : List β}
    (h : l.mapM f = .ok l') {a : α} (ha : a ∈ l) : ∃ b ∈ l', f a = .ok b := by
  induction mapM_eq_ok_iff.1 h with
  | nil => cases ha
  | cons hb hl ih =>
    rcases List.mem_cons.1 ha with rfl | ha
    · exact ⟨_, List.mem_cons_self, hb⟩
    · obtain ⟨b, hmem, hfb⟩ := ih (mapM_eq_ok_iff.2 hl) ha
      exact ⟨b, List.mem_cons_of_mem _ hmem, hfb⟩

theorem map_eq_of_mapM {γ : Type} {f : α → Except ε β} {key : α → γ} {key' : β → γ}
    (keep : ∀ a b, f a = .ok b → key' b = key a) {l : List α} {l' : List β}
    (h : l.mapM f = .ok l') : l'.map key' = l.map key := by
  induction mapM_eq_ok_iff.1 h with
  | nil => rfl
  | cons ha hl ih => rw [List.map_cons, List.map_cons, keep _ _ ha, ih (mapM_eq_ok_iff.2 hl)]

theorem exists_of_mapM_eq_error {f : α → Except ε β} {l : List α} {e : ε}
    (h : l.mapM f = .error e) : ∃ a ∈ l, f a = .error e := by
  induction l with
  | nil => cases h
  | cons a l ih =>
    rw [List.mapM_cons] at h
    cases ha : f a with
    | error e' =>
      rw [ha] at h
      cases h
      exact ⟨a, List.mem_cons_self, ha⟩
    | ok b =>
      cases hl : l.mapM f with
      | error e' =>
        rw [ha, hl] at h
        cases h
        obtain ⟨x, hx, hfx⟩ := ih hl
        exact ⟨x, List.mem_cons_of_mem a hx, hfx⟩
      | ok bs =>
        rw [ha, hl] at h
        cases h

theorem exists_mapM_eq_ok_iff {f : α → Except ε β} {l : List α} :
    (∃ l', l.mapM f = .ok l') ↔ ∀ a ∈ l, ∃ b, f a = .ok b := by
  constructor
  · rintro ⟨l', h⟩
    induction mapM_eq_ok_iff.1 h with
    | nil => exact nofun
    | cons ha hl ih => exact List.forall_mem_cons.2 ⟨⟨_, ha⟩, ih (mapM_eq_ok_iff.2 hl)⟩
  · intro h
    cases hl : l.mapM f with
    | ok l' => exact ⟨l', rfl⟩
    | error e =>
      obtain ⟨a, ha, stops⟩ := exists_of_mapM_eq_error hl
      obtain ⟨b, hb⟩ := h a ha
      cases stops.symm.trans hb

end SubspaceOps

/-!
# Tables in order of first insertion

A table is a list of key-value entries with distinct keys. Writing to a key that is present
replaces the value where it stands; writing to a new key appends. `get?_put` and `keys_put`
describe a write completely: what it changes for readers, and what it changes in the order.
-/
namespace SubspaceOps

variable {κ ν : Type} [DecidableEq κ]

namespace Entries

/-- Replace the value of the first entry with key `k`, or append a new entry. -/
def write (k : κ) (v : ν) : List (κ × ν) → List (κ × ν)
  | [] => [(k, v)]
  | e :: es => if e.1 = k then (k, v) :: es else e :: write k v es

theorem keys_write (k : κ) (v : ν) (es : List (κ × ν)) :
    (write k v es).map Prod.fst =
      if k ∈ es.map Prod.fst then es.map Prod.fst else es.map Prod.fst ++ [k] := by
  induction es with
  | nil => simp [write]
  | cons e es ih =>
    by_cases h : e.1 = k
    · simp [write, h]
    · have hk : ¬ k = e.1 := fun h' => h h'.symm
      by_cases hm : k ∈ es.map Prod.fst
      · simp only [write, h, if_false, List.map_cons, ih, hm, if_true, List.mem_cons, or_true]
      · simp only [write, h, if_false, List.map_cons, ih, hm, List.mem_cons, hk, or_self,
          List.cons_append]

theorem nodup_keys_write {es : List (κ × ν)} (h : (es.map Prod.fst).Nodup) (k : κ) (v : ν) :
    ((write k v es).map Prod.fst).Nodup := by
  rw [keys_write]
  split
  · exact h
  · next hk => exact List.nodup_append.2 ⟨h, by simp, by
      intro a ha b hb hab
      rw [List.mem_singleton] at hb
      exact hk (hb ▸ hab ▸ ha)⟩

theorem lookup_write (k k' : κ) (v : ν) (es : List (κ × ν)) :
    (write k v es).lookup k' = if k' = k then some v else es.lookup k' := by
  induction es with
  | nil => by_cases h : k' = k <;> simp [write, List.lookup_cons, h, beq_false_of_ne]
  | cons e es ih =>
    obtain ⟨a, b⟩ := e
    by_cases ha : a = k
    · subst ha
      by_cases h : k' = a <;> simp [write, List.lookup_cons, h, beq_false_of_ne]
    · by_cases h : k' = a
      · subst h
        simp [write, ha]
      · simp [write, List.lookup_cons, ha, h, beq_false_of_ne, ih]

theorem write_of_not_mem {k : κ} {es : List (κ × ν)} (h : k ∉ es.map Prod.fst) (v : ν) :
    write k v es = es ++ [(k, v)] := by
  induction es with
  | nil => rfl
  | cons e es ih =>
    simp only [List.map_cons, List.mem_cons, not_or] at h
    have : ¬ e.1 = k := fun e => h.1 e.symm
    simp [write, this, ih h.2]

theorem lookup_eq_some_iff {es : List (κ × ν)} (h : (es.map Prod.fst).Nodup) {k : κ} {v : ν} :
    es.lookup k = some v ↔ (k, v) ∈ es := by
  induction es with
  | nil => simp
  | cons e es ih =>
    obtain ⟨a, b⟩ := e
    rw [List.map_cons, List.nodup_cons] at h
    by_cases hk : k = a
    · subst hk
      have absent : (k, v) ∉ es := fun hm => h.1 (List.mem_map.2 ⟨(k, v), hm, rfl⟩)
      simp [absent, eq_comm]
    · simp [List.lookup_cons, hk, beq_false_of_ne, ih h.2]

end Entries

/-- A finite map whose entries stand in the order in which their keys were first written. -/
structure Table (κ ν : Type) where
  entries : List (κ × ν)
  nodup : (entries.map Prod.fst).Nodup

namespace Table

omit [DecidableEq κ] in
@[ext] theorem ext {s t : Table κ ν} (h : s.entries = t.entries) : s = t := by
  cases s; cases t; cases h; rfl

instance [DecidableEq ν] : DecidableEq (Table κ ν) := fun s t =>
  if h : s.entries = t.entries then isTrue (ext h) else isFalse fun e => h (e ▸ rfl)

def empty : Table κ ν := ⟨[], .nil⟩

instance : Inhabited (Table κ ν) := ⟨empty⟩
instance : EmptyCollection (Table κ ν) := ⟨empty⟩

def keys (t : Table κ ν) : List κ := t.entries.map Prod.fst

def values (t : Table κ ν) : List ν := t.entries.map Prod.snd

def size (t : Table κ ν) : Nat := t.entries.length

def get? (t : Table κ ν) (k : κ) : Option ν := t.entries.lookup k

/-- The value under a key, or a value given for absent keys. -/
def getD (t : Table κ ν) (k : κ) (v : ν) : ν := (t.get? k).getD v

def contains (t : Table κ ν) (k : κ) : Bool := (t.get? k).isSome

/-- Bind `k` to `v`; a key that is present keeps its place. -/
def put (t : Table κ ν) (k : κ) (v : ν) : Table κ ν :=
  ⟨Entries.write k v t.entries, Entries.nodup_keys_write t.nodup k v⟩

/-- Write a list of entries one after the other. -/
def putAll (t : Table κ ν) (es : List (κ × ν)) : Table κ ν :=
  es.foldl (fun t e => t.put e.1 e.2) t

/-- The table that results from writing the entries into an empty one: of a repeated key the
first place and the last value count. -/
def ofList (es : List (κ × ν)) : Table κ ν := empty.putAll es

theorem get?_eq_some_iff {t : Table κ ν} {k : κ} {v : ν} :
    t.get? k = some v ↔ (k, v) ∈ t.entries :=
  Entries.lookup_eq_some_iff t.nodup

theorem mem_values_iff {t : Table κ ν} {v : ν} : v ∈ t.values ↔ ∃ k, t.get? k = some v := by
  simp only [get?_eq_some_iff, values, List.mem_map, Prod.exists, exists_eq_right]

theorem mem_keys_iff {t : Table κ ν} {k : κ} : k ∈ t.keys ↔ ∃ v, t.get? k = some v := by
  simp [get?_eq_some_iff, keys]

theorem size_eq_of_get?_eq {s t : Table κ ν} (h : ∀ k, s.get? k = t.get? k) :
    s.size = t.size := by
  have perm : s.keys.Perm t.keys := (List.perm_ext_iff_of_nodup s.nodup t.nodup).2 fun k =>
    mem_keys_iff.trans (h k ▸ mem_keys_iff.symm)
  simpa [keys, size] using perm.length_eq

@[simp] theorem get?_empty (k : κ) : (empty : Table κ ν).get? k = none := rfl

theorem get?_put (t : Table κ ν) (k k' : κ) (v : ν) :
    (t.put k v).get? k' = if k' = k then some v else t.get? k' :=
  Entries.lookup_write k k' v t.entries

@[simp] theorem get?_put_self (t : Table κ ν) (k : κ) (v : ν) : (t.put k v).get? k = some v := by
  simp [get?_put]

theorem get?_put_of_ne (t : Table κ ν) {k k' : κ} (h : k' ≠ k) (v : ν) :
    (t.put k v).get? k' = t.get? k' := by
  simp [get?_put, h]

theorem keys_put (t : Table κ ν) (k : κ) (v : ν) :
    (t.put k v).keys = if k ∈ t.keys then t.keys else t.keys ++ [k] :=
  Entries.keys_write k v t.entries

theorem entries_put_of_not_mem {t : Table κ ν} {k : κ} (h : k ∉ t.keys) (v : ν) :
    (t.put k v).entries = t.entries ++ [(k, v)] :=
  Entries.write_of_not_mem h v

theorem putAll_append (t : Table κ ν) (es es' : List (κ × ν)) :
    t.putAll (es ++ es') = (t.putAll es).putAll es' :=
  List.foldl_append

/-- Of several entries for a key the last one counts. -/
theorem get?_putAll (t : Table κ ν) (es : List (κ × ν)) (k : κ) :
    (t.putAll es).get? k =
      (((es.filter (·.1 = k)).getLast?).map Prod.snd).or (t.get? k) := by
  induction es generalizing t with
  | nil => rfl
  | cons e es ih =>
    have step : t.putAll (e :: es) = (t.put e.1 e.2).putAll es := rfl
    rw [step, ih, get?_put]
    by_cases h : e.1 = k
    · subst h
      rw [List.filter_cons_of_pos (by simp), List.getLast?_cons, if_pos rfl]
      cases (es.filter (·.1 = e.1)).getLast? <;> rfl
    · rw [List.filter_cons_of_neg (by simpa using h), if_neg (Ne.symm h)]

theorem keys_putAll (t : Table κ ν) (es : List (κ × ν)) :
    (t.putAll es).keys = t.keys ++ ((es.map Prod.fst).filter (· ∉ t.keys)).eraseDups := by
  induction es generalizing t with
  | nil => simp [putAll]
  | cons e es ih =>
    have step : t.putAll (e :: es) = (t.put e.1 e.2).putAll es := rfl
    rw [step, ih, keys_put, List.map_cons, List.filter_cons]
    by_cases known : e.1 ∈ t.keys
    · simp [known]
    · have others : (es.map Prod.fst).filter (· ∉ t.keys ++ [e.1]) =
          ((es.map Prod.fst).filter (· ∉ t.keys)).filter fun k => !k == e.1 := by
        rw [List.filter_filter]
        refine List.filter_congr fun k _ => ?_
        by_cases h : k = e.1 <;> simp [h]
      rw [if_neg known, if_pos (decide_eq_true known), others, List.eraseDups_cons,
        List.append_assoc, List.singleton_append]

theorem keys_ofList (es : List (κ × ν)) : (ofList es).keys = (es.map Prod.fst).eraseDups := by
  rw [ofList, keys_putAll, List.filter_eq_self.2 (by simp [keys, empty])]
  rfl

theorem entries_putAll {t : Table κ ν} {es : List (κ × ν)}
    (h : (t.keys ++ es.map Prod.fst).Nodup) : (t.putAll es).entries = t.entries ++ es := by
  induction es generalizing t with
  | nil => simp [putAll]
  | cons e es ih =>
    have hk : e.1 ∉ t.keys := by
      intro hm
      have := (List.nodup_append.1 h).2.2 e.1 hm e.1 (by simp)
      exact this rfl
    have hkeys : (t.put e.1 e.2).keys = t.keys ++ [e.1] := by rw [keys_put, if_neg hk]
    have step : (t.putAll (e :: es)) = (t.put e.1 e.2).putAll es := rfl
    rw [step, ih (by rw [hkeys]; simpa using h), entries_put_of_not_mem hk]
    simp

theorem entries_ofList {es : List (κ × ν)} (h : (es.map Prod.fst).Nodup) :
    (ofList es).entries = es := by
  have appended : ((empty : Table κ ν).putAll es).entries = (empty : Table κ ν).entries ++ es :=
    entries_putAll (by simpa [keys, empty] using h)
  simpa [ofList, empty] using appended

theorem mem_of_mem_entries_ofList {es : List (κ × ν)} {e : κ × ν}
    (h : e ∈ (ofList es).entries) : e ∈ es := by
  obtain ⟨k, v⟩ := e
  have found : (ofList es).get? k = some v := get?_eq_some_iff.2 h
  rw [ofList, get?_putAll, get?_empty, Option.or_none, Option.map_eq_some_iff] at found
  obtain ⟨⟨k', _⟩, last, rfl⟩ := found
  obtain ⟨mem, same⟩ := List.mem_filter.1 (List.mem_of_getLast? last)
  exact of_decide_eq_true same ▸ mem

theorem ofList_entries (t : Table κ ν) : ofList t.entries = t := ext (entries_ofList t.nodup)

/-- Tables with the same keys in the same order and the same look-ups are the same. -/
theorem eq_of_get?_eq {s t : Table κ ν} (same_keys : s.keys = t.keys)
    (h : ∀ k, s.get? k = t.get? k) : s = t := by
  have looked_up (u : Table κ ν) :
      u.entries.map (fun e => (e.1, some e.2)) = u.keys.map fun k => (k, u.get? k) := by
    rw [keys, List.map_map]
    refine List.map_congr_left fun e he => ?_
    rw [Function.comp_apply, get?_eq_some_iff.2 he]
  have same := (looked_up s).trans ((same_keys ▸ List.map_congr_left fun k _ => by rw [h k] :
    s.keys.map (fun k => (k, s.get? k)) = t.keys.map fun k => (k, t.get? k)).trans
      (looked_up t).symm)
  refine ext ((List.map_inj_right fun e f hef => ?_).1 same)
  cases e
  cases f
  cases hef
  rfl

theorem get?_putAll_entries (t u : Table κ ν) (k : κ) :
    (t.putAll u.entries).get? k = (u.get? k).or (t.get? k) := by
  have own : ((u.entries.filter (·.1 = k)).getLast?).map Prod.snd = u.get? k := by
    conv => rhs; rw [← ofList_entries u, ofList, get?_putAll, get?_empty, Option.or_none]
  rw [get?_putAll, own]

theorem mem_keys_putAll {t : Table κ ν} {es : List (κ × ν)} {k : κ} :
    k ∈ (t.putAll es).keys ↔ k ∈ t.keys ∨ k ∈ es.map Prod.fst := by
  rw [keys_putAll, List.mem_append, List.mem_eraseDups, List.mem_filter, decide_eq_true_eq]
  by_cases known : k ∈ t.keys <;> simp [known]

/-- An entry that is written to a table before its entries go to another can as well be written to
the other one behind them. -/
theorem putAll_entries_put (t u : Table κ ν) (k : κ) (v : ν) :
    t.putAll (u.put k v).entries = (t.putAll u.entries).put k v := by
  by_cases known : k ∈ u.keys
  · have same_keys : (u.put k v).keys = u.keys := by rw [keys_put, if_pos known]
    refine eq_of_get?_eq ?_ fun k' => ?_
    · rw [keys_put, if_pos (mem_keys_putAll.2 (.inr known)), keys_putAll, keys_putAll]
      exact congrArg (fun ks => t.keys ++ (ks.filter (· ∉ t.keys)).eraseDups) same_keys
    · rw [get?_putAll_entries, get?_put, get?_put, get?_putAll_entries]
      split <;> rfl
  · rw [entries_put_of_not_mem known, putAll_append]
    rfl

theorem putAll_entries_ofList (t : Table κ ν) (es : List (κ × ν)) :
    t.putAll (ofList es).entries = t.putAll es := by
  have updated (u : Table κ ν) :
      t.putAll (u.putAll es).entries = (t.putAll u.entries).putAll es := by
    induction es generalizing u with
    | nil => rfl
    | cons e es ih =>
      have step (w : Table κ ν) : w.putAll (e :: es) = (w.put e.1 e.2).putAll es := rfl
      rw [step, step, ih, putAll_entries_put]
  exact updated empty

end Table

end SubspaceOps

import SubspaceOps.Proofs.Record.SingleCall

/-!
# Typed setters

A setter binds its arguments to parameters by position (`Binds`). Its body forwards them to fields,
in another order and partly under other names, and the fields are written under tags that may have
other names again. None of this shows to a receiver: what a built-in setter is given for a parameter
is read back from the field that the parameter stands for, and all other fields are empty
(`decoded_setter`).
-/
namespace SubspaceOps

open Record

variable {t : RecordType} {s : Setter} {ps : List SetterParam} {args : List FieldInput}

namespace Setter

/-- The field that a parameter stands for is the one of its name, but three parts of a token are
given without the prefix of their fields. -/
def target (s : Setter) (param : String) : String :=
  if s.name = "set_token_info" ∧ param ∈ ["name", "symbol", "decimals"] then "token_" ++ param
  else param

/-- The setter is found by its name. Its body assigns each parameter to the field that it stands
for, which the type has, and assigns nothing else; what a parameter takes for an argument that is
left out is the empty value of its field. -/
@[mk_iff]
structure Sound (s : Setter) (t : RecordType) : Prop where
  found : t.setter? s.name = some s
  forwards : ∀ p ∈ s.params, (s.target p.name, p.name) ∈ s.body
  only : ∀ a ∈ s.body, a.1 = s.target a.2
  named : ∀ p ∈ s.params, s.target p.name ≠ "self"
  fields : ∀ p ∈ s.params, ∃ f ∈ t.fields, f.name = s.target p.name ∧
    ∀ v ∈ p.default?, v.Fits f.shape ∧ v.value = f.shape.default

instance (s : Setter) (t : RecordType) : Decidable (s.Sound t) :=
  decidable_of_iff' _ (sound_iff s t)

/-- The arguments of a call: not more than there are parameters, all of those without a default, and
each of the shape of the field that its parameter stands for. -/
structure Takes (s : Setter) (t : RecordType) (args : List FieldInput) : Prop where
  count : args.length ≤ s.params.length
  defaults : ∀ p ∈ s.params.drop args.length, p.default?.isSome
  fits : ∀ given ∈ s.params.zip args, ∀ f, t.field? (s.target given.1.name) = some f →
    given.2.Fits f.shape

theorem Takes.supplied (h : s.Takes t args) {i : Nat} {p : SetterParam}
    (hp : s.params[i]? = some p) : ∃ v, args[i]?.or p.default? = some v := by
  cases hv : args[i]? with
  | some v => exact ⟨v, rfl⟩
  | none =>
    have left_out : args.length ≤ i := List.getElem?_eq_none_iff.1 hv
    have dropped : (s.params.drop args.length)[i - args.length]? = some p := by
      rw [List.getElem?_drop, Nat.add_sub_cancel' left_out, hp]
    exact Option.isSome_iff_exists.1 (h.defaults p (List.mem_of_getElem? dropped))

/-! ## Binding of arguments -/

/-- Every parameter is bound to the argument in its place or, where there is none, to its
default. -/
structure Binds (ps : List SetterParam) (args : List FieldInput)
    (bound : List (String × FieldInput)) : Prop where
  names : bound.map Prod.fst = ps.map SetterParam.name
  entries : ∀ (i : Nat) (p : SetterParam), ps[i]? = some p →
    bound[i]? = (args[i]?.or p.default?).map fun v => (p.name, v)

theorem bind_cons {p : SetterParam} {v : FieldInput} (hv : args[0]?.or p.default? = some v) :
    bind (p :: ps) args = (bind ps args.tail).map ((p.name, v) :: ·) := by
  cases args with
  | nil =>
    have default : p.default? = some v := hv
    simp [bind, default]
  | cons w args =>
    cases hv
    rfl

theorem exists_bind (count : args.length ≤ ps.length)
    (supplied : ∀ (i : Nat) (p : SetterParam), ps[i]? = some p →
      ∃ v, args[i]?.or p.default? = some v) :
    ∃ bound, bind ps args = .ok bound ∧ Binds ps args bound := by
  induction ps generalizing args with
  | nil =>
    cases List.length_eq_zero_iff.1 (Nat.le_zero.1 count)
    exact ⟨[], rfl, rfl, nofun⟩
  | cons q ps ih =>
    -- Without arguments the tail is empty too, so the defaults are no case of their own.
    obtain ⟨v, hv⟩ := supplied 0 q rfl
    have count_tail : args.tail.length ≤ ps.length := by
      rw [List.length_cons] at count
      rw [List.length_tail]
      omega
    have supplied_tail (i : Nat) (p : SetterParam) (hp : ps[i]? = some p) :
        ∃ v, args.tail[i]?.or p.default? = some v := by
      rw [List.getElem?_tail]
      exact supplied (i + 1) p hp
    obtain ⟨bound, hbound, names, entries⟩ := ih count_tail supplied_tail
    refine ⟨(q.name, v) :: bound, ?_, by simp [names], fun i p hp => ?_⟩
    · rw [bind_cons hv, hbound]
      rfl
    · cases i with
      | zero =>
        cases hp
        rw [hv]
        rfl
      | succ i => rw [List.getElem?_cons_succ, entries i p hp, List.getElem?_tail]

namespace Binds

variable {bound : List (String × FieldInput)} (h : Binds ps args bound)
  (distinct : (ps.map SetterParam.name).Nodup)
include h distinct

theorem lookup_name {i : Nat} {p : SetterParam} (hp : ps[i]? = some p) {v : FieldInput}
    (hv : args[i]?.or p.default? = some v) : bound.lookup p.name = some v := by
  refine (Entries.lookup_eq_some_iff (h.names ▸ distinct)).2 (List.mem_of_getElem? (i := i) ?_)
  rw [h.entries i p hp, hv]
  rfl

theorem exists_param {name : String} {v : FieldInput} (hv : bound.lookup name = some v) :
    ∃ (i : Nat) (p : SetterParam), ps[i]? = some p ∧ p.name = name ∧
      args[i]?.or p.default? = some v := by
  obtain ⟨i, hi⟩ :=
    List.mem_iff_getElem?.1 ((Entries.lookup_eq_some_iff (h.names ▸ distinct)).1 hv)
  have name_at := congrArg (·[i]?) h.names
  simp only [List.getElem?_map, hi, Option.map_some] at name_at
  obtain ⟨p, hp, name⟩ := Option.map_eq_some_iff.1 name_at.symm
  rw [h.entries i p hp] at hi
  obtain ⟨w, hw, same⟩ := Option.map_eq_some_iff.1 hi
  exact ⟨i, p, hp, name, (Prod.mk.inj same).2 ▸ hw⟩

end Binds

/-! ## Forwarding to fields -/

section

variable {body : List (String × String)} {bound : List (String × FieldInput)} {field : String}
  {v : FieldInput}

theorem mem_forward_iff :
    (field, v) ∈ forward body bound ↔
      ∃ param, (field, param) ∈ body ∧ bound.lookup param = some v := by
  rw [forward, List.mem_filterMap]
  constructor
  · rintro ⟨⟨_, param⟩, ha, h⟩
    obtain ⟨_, hv, same⟩ := Option.map_eq_some_iff.1 h
    cases same
    exact ⟨param, ha, hv⟩
  · rintro ⟨param, ha, hv⟩
    exact ⟨(field, param), ha, by rw [hv]; rfl⟩

theorem nodup_forward (once : (body.map Prod.fst).Nodup) (bound : List (String × FieldInput)) :
    ((forward body bound).map Prod.fst).Nodup := by
  refine once.sublist ?_
  induction body with
  | nil => exact List.Sublist.slnil
  | cons a body ih =>
    have rest := ih (List.nodup_cons.1 once).2
    rw [forward] at rest ⊢
    cases hv : bound.lookup a.2 with
    | none => simpa [hv] using rest.cons a.1
    | some v => simpa [hv] using rest

end

/-- A setter assigns the field that a parameter stands for what the parameter is bound to, and no
other field. -/
theorem exists_assignments (sound : s.Sound t) (takes : s.Takes t args) :
    ∃ values, s.assignments args = .ok values ∧ Assigns t.slots values ∧
      (∀ i ∈ values, i.1 ≠ "self") ∧
        (∀ (i : Nat) (p : SetterParam), s.params[i]? = some p →
          values.lookup (s.target p.name) = args[i]?.or p.default?) ∧
          ∀ name, (∀ p ∈ s.params, s.target p.name ≠ name) → values.lookup name = none := by
  obtain ⟨bound, hbound, binds⟩ := exists_bind takes.count fun _ _ => takes.supplied
  have once := nodup_forward s.once bound
  -- what is assigned comes from a parameter, so its field and its shape are known
  have of_value {a : String × FieldInput} (ha : a ∈ forward s.body bound) :
      ∃ (i : Nat) (p : SetterParam), s.params[i]? = some p ∧ s.target p.name = a.1 ∧
        args[i]?.or p.default? = some a.2 := by
    obtain ⟨param, assigned, hv⟩ := mem_forward_iff.1 ha
    obtain ⟨i, p, hp, rfl, taken⟩ := binds.exists_param s.distinct hv
    exact ⟨i, p, hp, (sound.only _ assigned).symm, taken⟩
  refine ⟨forward s.body bound, by rw [assignments, hbound]; rfl, ⟨once, fun a ha => ?_⟩,
    fun a ha => ?_, fun i p hp => ?_, fun name unfilled => ?_⟩
  · obtain ⟨i, p, hp, name, taken⟩ := of_value ha
    obtain ⟨f, hf, fills, default_fits⟩ := sound.fields p (List.mem_of_getElem? hp)
    refine ⟨f.shape, List.mem_map.2 ⟨f, hf, by rw [fills, name]⟩, ?_⟩
    rcases Option.or_eq_some_iff.1 taken with given | ⟨-, default⟩
    · exact takes.fits (p, a.2) (List.mem_of_getElem? (List.getElem?_zip_eq_some.2 ⟨hp, given⟩)) f
        (RecordType.field?_eq_some_iff.2 ⟨hf, fills⟩)
    · exact (default_fits _ default).1
  · obtain ⟨i, p, hp, name, -⟩ := of_value ha
    exact name ▸ sound.named p (List.mem_of_getElem? hp)
  · obtain ⟨v, taken⟩ := takes.supplied hp
    have assigned := sound.forwards p (List.mem_of_getElem? hp)
    have found := binds.lookup_name s.distinct hp taken
    rw [taken, Entries.lookup_eq_some_iff once]
    exact mem_forward_iff.2 ⟨p.name, assigned, found⟩
  · refine Option.eq_none_iff_forall_ne_some.2 fun v hv => ?_
    obtain ⟨i, p, hp, fills, -⟩ := of_value ((Entries.lookup_eq_some_iff once).1 hv)
    exact unfilled p (List.mem_of_getElem? hp) fills

end Setter

/-! ## Setters of the built-in types -/

theorem sound_builtIn : ∀ m ∈ Catalogue.modules, ∀ t ∈ m.records, ∀ s ∈ t.setters,
    t.role = .plain ∧ s.Sound t := by
  decide +kernel

theorem settable_builtIn : ∀ m ∈ Catalogue.modules, ∀ t ∈ m.records, t.role = .plain →
    ∀ f ∈ t.fields, ∃ s ∈ t.setters, ∃ p ∈ s.params, s.target p.name = f.name := by
  decide +kernel

/-- The setters of a built-in type without lifecycle checks reach all of its fields. A call of one
of them on a new record, with arguments that it takes, succeeds, and the receiver gets a record of
the type. There the field that a parameter stands for has the argument in the place of the
parameter; it is empty when the argument is left out, and so are all other fields. -/
theorem decoded_setter {m : OperationModule} (hm : m ∈ Catalogue.modules) (ht : t ∈ m.records) :
    (t.role = .plain →
      ∀ f ∈ t.fields, ∃ s ∈ t.setters, ∃ p ∈ s.params, s.target p.name = f.name) ∧
    ∀ s ∈ t.setters, ∀ args, s.Takes t args → ∀ now sid, ∃ draft built got,
      t.new Catalogue.registry now sid = .ok draft ∧ draft.call s.name args = (built, none) ∧
        (Catalogue.registry.decode built.header.envelope).outcome = .ok got ∧ got.type = t ∧
          (∀ (i : Nat) (p : SetterParam), s.params[i]? = some p →
            ∃ f, t.field? (s.target p.name) = some f ∧
              got.value f = (args[i]?.map FieldInput.value).getD f.shape.default) ∧
            ∀ f ∈ t.fields, (∀ p ∈ s.params, s.target p.name ≠ f.name) →
              got.value f = f.shape.default := by
  refine ⟨settable_builtIn m hm t ht, fun s hs args takes now sid => ?_⟩
  obtain ⟨plain, sound⟩ := sound_builtIn m hm t ht s hs
  have built_in := List.mem_flatMap.2 ⟨m, hm, ht⟩
  have unhidden := unhidden_builtIn t built_in
  obtain ⟨kind, routes⟩ := exists_routes_builtIn hm ht
  obtain ⟨draft, hd⟩ := RecordType.exists_draft plain unhidden routes.found now sid
  obtain ⟨values, assigned, assigns, named, filled, unfilled⟩ := s.exists_assignments sound takes
  obtain ⟨built, got, set, decoded, -, type, agree⟩ :=
    exists_decoded_call assigns named plain (tags_builtIn t built_in) unhidden routes hd
  refine ⟨draft, built, got, hd, ?_, decoded, type, fun i p hp => ?_, fun f hf others => ?_⟩
  · rw [call, RecordType.type_of_new plain routes.found hd, sound.found]
    simp only [assigned, set]
  · obtain ⟨f, hf, fills, left_out⟩ := sound.fields p (List.mem_of_getElem? hp)
    refine ⟨f, RecordType.field?_eq_some_iff.2 ⟨hf, fills⟩, ?_⟩
    rw [(agree f hf).2, callValue, fills, filled i p hp]
    cases args[i]? with
    | some v => rfl
    | none =>
      cases hdefault : p.default? with
      | none => rfl
      | some v => exact (left_out v hdefault).2
  · rw [(agree f hf).2, callValue, unfilled _ others]
    rfl

/-- A discussion with a parent, which stands in the tag of the parents, and without references. -/
theorem decoded_setter_discussion :
    ∃ s ∈ OpenResearch.discussion.setters, s.name = "set_discussion_info" ∧
      s.Takes OpenResearch.discussion [.text "t", .text "x"] ∧
        ∃ draft built got topic parent references,
          OpenResearch.discussion.new Catalogue.registry 1700000000 "s" = .ok draft ∧
            draft.call s.name [.text "t", .text "x"] = (built, none) ∧
              (Catalogue.registry.decode built.header.envelope).outcome = .ok got ∧
                OpenResearch.discussion.fields = [topic, parent, references] ∧
                  got.value topic = .scalar "t" ∧ got.value parent = .scalar "x" ∧
                    got.value references = .list [] := by
  let setter : Setter := .of "set_discussion_info" ["topic"]
    [("parent_id", .text ""), ("references", .items [])]
    [("topic", "topic"), ("parent_id", "parent_id"), ("references", "references")]
  have takes : setter.Takes OpenResearch.discussion [.text "t", .text "x"] :=
    ⟨by decide, by decide, by decide⟩
  obtain ⟨-, calls⟩ :=
    decoded_setter (by decide +kernel : OpenResearch.operations ∈ Catalogue.modules)
      (by decide +kernel : OpenResearch.discussion ∈ OpenResearch.operations.records)
  obtain ⟨draft, built, got, hd, call, decoded, -, filled, -⟩ :=
    calls setter (by decide +kernel) _ takes 1700000000 "s"
  obtain ⟨topic, htopic, topic_value⟩ := filled 0 _ rfl
  obtain ⟨parent, hparent, parent_value⟩ := filled 1 _ rfl
  obtain ⟨references, hreferences, references_value⟩ := filled 2 _ rfl
  cases htopic
  cases hparent
  cases hreferences
  exact ⟨setter, by decide +kernel, rfl, takes, draft, built, got, _, _, _, hd, call, decoded, rfl,
    topic_value, parent_value, references_value⟩

end SubspaceOps

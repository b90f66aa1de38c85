import SubspaceOps.Proofs.Capability.Grammar
import SubspaceOps.Proofs.Record.CapabilityTag

/-!
# Capabilities are read back

A capability is made of three values, of the members of an object or of a text. Each way takes
exactly numbers within the width of their fields, and the capability holds the numbers that it was
given (`new_eq_ok_iff`, `ofMembers_eq_ok_iff`, `holds_of_read`). Its text and its members are read
as the capability that they were written for. A reader of an envelope finds it in the tag, too
(`round_trips`).
-/
namespace SubspaceOps.Capability

/-- The capability has the numbers, which are within the width of their fields. -/
def Holds (c : Capability) (numbers : Field → Int) : Prop :=
  ∀ f, 0 ≤ numbers f ∧ numbers f < Nat.pow 2 f.bits ∧ ((c.value f).toNat : Int) = numbers f

variable {c : Capability} {action key expiry : Json} {members : List (String × Json)}

theorem holds_iff {numbers : Field → Int} :
    c.Holds numbers ↔ numbers = fun f => ((c.value f).toNat : Int) := by
  constructor
  · intro h
    funext f
    exact (h f).2.2.symm
  · rintro rfl f
    exact ⟨Int.natCast_nonneg _, Int.ofNat_lt.2 (c.value f).isLt, rfl⟩

/-! ## Construction -/

theorem checkValue_eq_ok_iff {shown : String} {f : Field} {v : Json} {word : BitVec f.bits} :
    checkValue shown f v = .ok word ↔ v = .int word.toNat := by
  constructor
  · intro h
    unfold checkValue at h
    split at h
    · dsimp only at h
      split at h
      · next same =>
        cases h
        rw [same]
      · cases h
    · cases h
  · rintro rfl
    have kept : BitVec.ofInt f.bits word.toNat = word := by simp
    simp [checkValue, kept]

theorem ofValues_eq_ok_iff : ofValues action key expiry = .ok c ↔
    action = .int c.action.toNat ∧ key = .int c.key.toNat ∧ expiry = .int c.expiry.toNat := by
  simp only [ofValues, bind_eq_ok_iff, checkValue_eq_ok_iff (f := .action),
    checkValue_eq_ok_iff (f := .key), checkValue_eq_ok_iff (f := .expiry)]
  constructor
  · rintro ⟨a, rfl, k, rfl, e, rfl, ⟨⟩⟩
    exact ⟨rfl, rfl, rfl⟩
  · rintro ⟨rfl, rfl, rfl⟩
    exact ⟨_, rfl, _, rfl, _, rfl, rfl⟩

/-- Values form a capability when the first stands for an integer, the others are integers, and all
three are within the width of their fields. -/
theorem new_eq_ok_iff : new action key expiry = .ok c ↔ ∃ numbers : Field → Int,
    action.integer = .ok (numbers .action) ∧ key = .int (numbers .key) ∧
      expiry = .int (numbers .expiry) ∧ c.Holds numbers := by
  simp only [new, bind_eq_ok_iff, ofValues_eq_ok_iff, holds_iff, Json.int.injEq]
  constructor
  · rintro ⟨_, integer, rfl, rfl, rfl⟩
    exact ⟨_, integer, rfl, rfl, rfl⟩
  · rintro ⟨_, integer, rfl, rfl, rfl⟩
    exact ⟨_, integer, rfl, rfl, rfl⟩

theorem ofMembers_eq_ok_iff : ofMembers members = .ok c ↔ ∃ numbers : Field → Int,
    (∀ f, ∃ v, Json.member? members f.name = some v ∧ v.integer = .ok (numbers f)) ∧
      c.Holds numbers := by
  unfold ofMembers
  extract_lets get
  have get_iff (f : Field) (n : Int) :
      get f = .ok n ↔ ∃ v, Json.member? members f.name = some v ∧ v.integer = .ok n := by
    dsimp only [get]
    cases Json.member? members f.name <;> simp
  simp only [bind_eq_ok_iff, get_iff, ofValues_eq_ok_iff, holds_iff, Json.int.injEq]
  constructor
  · rintro ⟨_, action, _, key, _, expiry, rfl, rfl, rfl⟩
    refine ⟨_, fun f => ?_, rfl⟩
    cases f with
    | action => exact action
    | key => exact key
    | expiry => exact expiry
  · rintro ⟨_, found, rfl⟩
    exact ⟨_, found .action, _, found .key, _, found .expiry, rfl, rfl, rfl⟩

theorem ofMembers_members (c : Capability) : ofMembers c.members = .ok c := by
  refine ofMembers_eq_ok_iff.2 ⟨_, fun f => ?_, holds_iff.2 rfl⟩
  cases f <;> exact ⟨_, rfl, rfl⟩

theorem holds_of_read {s : String} (h : read s = .ok c) :
    ∃ numbers : Field → Nat, Written s numbers ∧ c.Holds fun f => numbers f :=
  ⟨_, written_of_read h, holds_iff.2 rfl⟩

theorem text_injective : Function.Injective text := by
  intro c d same
  have read_c := read_text c
  rw [same, read_text d] at read_c
  exact (Except.ok.inj read_c).symm

/-! ## Everything together -/

/-- What is granted is put in the header, and behind tags that are read it is read back. -/
theorem read_setCapability (h : new action key expiry = .ok c) (r : Record) :
    ∃ r', r.setCapability action key expiry = (r', none) ∧ r'.header.capability = some c ∧
      CommonTags.read r'.header.envelope.tags = (CommonTags.read r.header.envelope.tags).map
        fun common => { common with capability := some c } := by
  refine ⟨r.grant c, ?_, rfl, CommonTags.read_append_capability _ c⟩
  rw [Record.setCapability, h]

/-- Each way to a capability takes exactly numbers within the width of their fields and keeps them.
The text and the members of every capability lead back to it, so that different ones have different
texts, and what was read from a text is read again from the text that is written for it. A
capability that is granted is read from the tags of its record whenever the tags before it are; in
a record of a supplied type they always are, and the one granted last is found. -/
theorem round_trips :
    (∀ action key expiry c, new action key expiry = .ok c ↔ ∃ numbers : Field → Int,
        action.integer = .ok (numbers .action) ∧ key = .int (numbers .key) ∧
          expiry = .int (numbers .expiry) ∧ c.Holds numbers) ∧
      (∀ members c, ofMembers members = .ok c ↔ ∃ numbers : Field → Int,
        (∀ f, ∃ v, Json.member? members f.name = some v ∧ v.integer = .ok (numbers f)) ∧
          c.Holds numbers) ∧
      (∀ s c, read s = .ok c → read c.text = .ok c ∧
        ∃ numbers : Field → Nat, Written s numbers ∧ c.Holds fun f => numbers f) ∧
      (∀ c, read c.text = .ok c ∧ ofMembers c.members = .ok c) ∧
      Function.Injective text ∧
      (∀ action key expiry c, new action key expiry = .ok c → ∀ r : Record,
        ∃ r', r.setCapability action key expiry = (r', none) ∧ r'.header.capability = some c ∧
          CommonTags.read r'.header.envelope.tags = (CommonTags.read r.header.envelope.tags).map
            fun common => { common with capability := some c }) ∧
      ∀ start, Opened start → Supplied start.type → ∀ edits, ∃ common,
        CommonTags.read (start.after edits).header.envelope.tags = .ok common ∧
          common.capability = (start.after edits).header.capability ∧
          common.capability = (Record.granted edits).getLast?.or start.header.capability := by
  refine ⟨fun _ _ _ _ => new_eq_ok_iff, fun _ _ => ofMembers_eq_ok_iff, fun s c h => ?_,
    fun c => ⟨read_text c, ofMembers_members c⟩, text_injective,
    fun _ _ _ _ => read_setCapability, fun start opened supplied edits => ?_⟩
  · exact ⟨read_text c, holds_of_read h⟩
  · obtain ⟨common, read, shown⟩ := opened.showsCapability.after supplied.tagsApart edits
    exact ⟨common, read, shown, shown.trans (start.capability_after edits)⟩

/-- Parents that are added behind a capability leave it to be found. -/
theorem read_granted_joining : ∃ common,
    CommonTags.read ((Joining.new 1700000000 "s").after
      [.capability (.int 3) (.int 7) (.int 100), .parents ["p"]]).header.envelope.tags =
        .ok common ∧ common.capability = some ⟨3, 7, 100⟩ := by
  have supplied : Supplied Joining.recordType :=
    .builtIn (by decide +kernel : Lifecycle.operations ∈ Catalogue.modules) (by decide +kernel)
  obtain ⟨common, read, -, found⟩ := round_trips.2.2.2.2.2.2 _ (.joining 1700000000 "s") supplied
    [.capability (.int 3) (.int 7) (.int 100), .parents ["p"]]
  exact ⟨common, read, found⟩

end SubspaceOps.Capability

import SubspaceOps.Catalogue
import SubspaceOps.Declaration.Loading
import SubspaceOps.Proofs.Json.Verbatim
import SubspaceOps.Routing

/-!
# Lines of the journal

An entry is written with its message as it is, so its line is a JSON object that shows the message
exactly when the message is verbatim (`isLine_iff`). The calls that report put texts from outside
into their messages: identifiers, names of modules and operations, paths. Their lines are in order
exactly when all of these texts are verbatim (`lines_iff_verbatim_texts`). All texts
are of Unicode scalar values here: a file that escapes an unpaired surrogate lies outside, and its
loading stops without an entry.
-/
namespace SubspaceOps.Journal

open Json

/-! ## Lines -/

/-- The text is one line, which is an object of four texts that shows the message. -/
def IsLine (line message : String) : Prop :=
  ∃ body members, line = body ++ "\n" ∧ '\n' ∉ body.toList ∧ '\r' ∉ body.toList ∧
    Json.read body = .ok (.object members) ∧
      (members.map Prod.fst).Perm (["ts", "level", "name", "msg"].map CodeText.ofString) ∧
        (∀ m ∈ members, ∃ s, m.2 = .text s) ∧ member? members "msg" = some (.text ↑message)

/-- The line of four texts. -/
def lineOf (ts level name msg : String) : String :=
  "\x7b\"ts\": \"" ++ ts ++ "\", \"level\": \"" ++ level ++ "\", \"name\": \"" ++ name ++
    "\", \"msg\": \"" ++ msg ++ "\"\x7d\n"

theorem line_eq_lineOf (clock : Nat) (e : Entry) :
    e.line clock = lineOf (Timestamp.text clock) e.level.name e.logger e.message := rfl

/-- The style in which a line of verbatim texts is written. -/
def lineStyle : Style := ⟨[',', ' '], [':', ' '], false⟩

section

variable {ts level name msg : String}

/-- The members of a line of verbatim texts. -/
def lineMembers (ts level name msg : String) : List (String × Json) :=
  [("ts", .text ts), ("level", .text level), ("name", .text name), ("msg", .text msg)]

/-- The characters of a line up to the quote behind the message, and then the given ones. -/
def lineChars (ts level name msg : String) (cs : List Char) : List Char :=
  '\x7b' :: memberChars "ts" ts (',' :: ' ' :: memberChars "level" level (',' :: ' ' ::
    memberChars "name" name (',' :: ' ' :: memberChars "msg" msg cs)))

theorem lineChars_append (cs ds : List Char) :
    lineChars ts level name msg (cs ++ ds) = lineChars ts level name msg cs ++ ds := by
  simp only [lineChars, memberChars, List.cons_append, List.append_assoc]

theorem lineChars_eq (cs : List Char) :
    lineChars ts level name msg cs = "\x7b\"ts\": \"".toList ++ (ts.toList ++
      ("\", \"level\": \"".toList ++ (level.toList ++ ("\", \"name\": \"".toList ++
        (name.toList ++ ("\", \"msg\": \"".toList ++ (msg.toList ++ '"' :: cs))))))) := by
  simp [lineChars, memberChars]

theorem toList_lineOf :
    (lineOf ts level name msg).toList = lineChars ts level name msg ['\x7d'] ++ ['\n'] := by
  refine Eq.trans ?_ ((lineChars_eq _).symm.trans (lineChars_append ['\x7d'] ['\n']))
  delta lineOf
  simp only [String.toList_append, List.append_assoc, List.cons_append, List.nil_append]
  rfl

theorem verbatim_keys : Verbatim "ts" ∧ Verbatim "level" ∧ Verbatim "name" ∧ Verbatim "msg" := by
  decide

theorem chars_lineMembers (hts : Verbatim ts) (hlevel : Verbatim level) (hname : Verbatim name)
    (hmsg : Verbatim msg) :
    (Json.object (lineMembers ts level name msg)).chars lineStyle =
      lineChars ts level name msg ['\x7d'] := by
  obtain ⟨key₁, key₂, key₃, key₄⟩ := verbatim_keys
  simp only [lineMembers, Json.chars, membersChars, textChars, lineStyle, flatMap_textChar key₁,
    flatMap_textChar key₂, flatMap_textChar key₃, flatMap_textChar key₄, flatMap_textChar hts,
    flatMap_textChar hlevel, flatMap_textChar hname, flatMap_textChar hmsg]
  simp only [lineChars, memberChars, List.cons_append, List.append_assoc, List.nil_append]

theorem plain_lineMembers : Json.Plain (.object (lineMembers ts level name msg)) := by
  refine .object (by simp [lineMembers]) ?_
  simp only [lineMembers, List.forall_mem_cons]
  exact ⟨.text _, .text _, .text _, .text _, by simp⟩

theorem separates_lineStyle : lineStyle.Separates :=
  ⟨Style.separates_spaced.comma, Style.separates_spaced.colon⟩

theorem not_mem_lineChars (hts : Verbatim ts) (hlevel : Verbatim level) (hname : Verbatim name)
    (hmsg : Verbatim msg) {c : Char} (hc : ¬ IsVerbatim c) (quote : c ≠ '"') :
    c ∉ lineChars ts level name msg ['\x7d'] := by
  have other {d : Char} (hd : IsVerbatim d) : c ≠ d := fun e => hc (e ▸ hd)
  obtain ⟨key₁, key₂, key₃, key₄⟩ := verbatim_keys
  simp only [lineChars, List.mem_cons, mem_memberChars_iff key₁ hts hc quote,
    mem_memberChars_iff key₂ hlevel hc quote, mem_memberChars_iff key₃ hname hc quote,
    mem_memberChars_iff key₄ hmsg hc quote, other (by decide : IsVerbatim '\x7b'),
    other (by decide : IsVerbatim '\x7d'), other (by decide : IsVerbatim ','),
    other (by decide : IsVerbatim ' '), List.not_mem_nil, or_false, not_false_iff]

theorem isLine_of_verbatim (hts : Verbatim ts) (hlevel : Verbatim level) (hname : Verbatim name)
    (hmsg : Verbatim msg) : IsLine (lineOf ts level name msg) msg := by
  have body : ((Json.object (lineMembers ts level name msg)).write lineStyle).toList =
      lineChars ts level name msg ['\x7d'] := by
    rw [Json.write, String.toList_ofList, chars_lineMembers hts hlevel hname hmsg]
  have unbroken {c : Char} (hc : ¬ IsVerbatim c) (quote : c ≠ '"') :
      c ∉ ((Json.object (lineMembers ts level name msg)).write lineStyle).toList :=
    body ▸ not_mem_lineChars hts hlevel hname hmsg hc quote
  refine ⟨(Json.object (lineMembers ts level name msg)).write lineStyle, _, ?_,
    unbroken (by decide) (by decide), unbroken (by decide) (by decide),
    read_write separates_lineStyle plain_lineMembers, .refl _, ?_, ?_⟩
  · refine String.toList_inj.1 (Eq.trans toList_lineOf ?_)
    rw [← body, String.toList_append]
    exact congrArg (_ ++ ·) (by decide)
  · simp [lineMembers, membersInCodePoints, inCodePoints]
  · rfl

theorem verbatim_of_isLine (hts : Verbatim ts) (hlevel : Verbatim level) (hname : Verbatim name)
    (h : IsLine (lineOf ts level name msg) msg) : Verbatim msg := by
  obtain ⟨body, members, hline, -, -, hread, -, -, hmsg⟩ := h
  have hbody : body.toList = lineChars ts level name msg ['\x7d'] := by
    have := congrArg String.toList hline
    rw [toList_lineOf, String.toList_append] at this
    exact (List.append_cancel_right this).symm
  rw [Json.read, hbody, lineChars, skipBlanks_of_not_blank (by decide)] at hread
  split at hread
  · cases hread
  · next x rest hx =>
    split at hread
    · cases hread
      obtain ⟨key₁, key₂, key₃, key₄⟩ := verbatim_keys
      -- the message is what is found behind the three members before it
      obtain ⟨n₀, all, hall, rfl⟩ := readValue_object hx
      obtain ⟨n₁, later₁, hlater₁, rfl⟩ := readMembers_verbatim key₁ hts hall
      obtain ⟨n₂, later₂, hlater₂, rfl⟩ := readMembers_verbatim key₂ hlevel hlater₁
      obtain ⟨n₃, later₃, hlater₃, rfl⟩ := readMembers_verbatim key₃ hname hlater₂
      have found := mem_of_member?_mergeMembers hmsg
      simp only [List.mem_cons, Prod.mk.injEq] at found
      rcases found with ⟨other, -⟩ | ⟨other, -⟩ | ⟨other, -⟩ | found
      · exact absurd other (by decide)
      · exact absurd other (by decide)
      · exact absurd other (by decide)
      · exact verbatim_of_readMembers key₄ hlater₃ found
    · cases hread

end

theorem verbatim_padded (width n : Nat) : Verbatim (Timestamp.padded width n) := by
  intro c hc
  simp only [Timestamp.padded, String.toList_ofList, List.mem_append, List.mem_replicate] at hc
  rcases hc with ⟨-, rfl⟩ | hc
  · decide
  · exact isVerbatim_of_mem_toDigits hc

theorem verbatim_timestamp (clock : Nat) : Verbatim (Timestamp.text clock) := by
  have separators : Verbatim "-" ∧ Verbatim "T" ∧ Verbatim ":" ∧ Verbatim "Z" := by decide
  simp only [Timestamp.text, verbatim_append, verbatim_padded, separators, and_self]

/-! ## Messages -/

theorem verbatim_natText (n : Nat) : Verbatim (toString n) := by
  intro c hc
  rw [Nat.toString_eq_ofList_toDigits, String.toList_ofList] at hc
  exact isVerbatim_of_mem_toDigits hc

theorem verbatim_intText (i : Int) : Verbatim (toString i) := by
  intro c hc
  cases i with
  | ofNat n =>
    rw [toList_toString_ofNat] at hc
    exact isVerbatim_of_mem_toDigits hc
  | negSucc n =>
    rw [toList_toString_negSucc] at hc
    rcases List.mem_cons.1 hc with rfl | hc
    · decide
    · exact isVerbatim_of_mem_toDigits hc

theorem verbatim_levelName (level : Level) : Verbatim level.name := by
  unfold Level.name
  split_ifs
  iterate 6 decide
  cases level with
  | number n => exact verbatim_append.2 ⟨by decide, verbatim_intText n⟩
  | switch on =>
    change Verbatim "Level True"
    decide

theorem verbatim_label (x : Rejection) : Verbatim x.label := by
  cases x <;> simp only [Rejection.label] <;> decide

theorem verbatim_shownId (e : Envelope) : Verbatim (Routing.shownId e) ↔ Verbatim e.id := by
  unfold Routing.shownId
  split
  · next empty => simp only [empty, show Verbatim "-" by decide, show Verbatim "" by decide]
  · rfl

/-- An entry is written as a line that shows its message exactly when the message stands for itself
in a JSON text. -/
theorem isLine_iff {clock : Nat} {e : Entry} (hname : Verbatim e.logger) :
    IsLine (e.line clock) e.message ↔ Verbatim e.message := by
  rw [line_eq_lineOf]
  exact ⟨verbatim_of_isLine (verbatim_timestamp clock) (verbatim_levelName e.level) hname,
    isLine_of_verbatim (verbatim_timestamp clock) (verbatim_levelName e.level) hname⟩

/-! ## Calls -/

/-- A call that reports to the journal. -/
inductive Call
  | decode (r : Registry) (e : Envelope)
  | decodeBy (m : OperationModule) (r : Registry) (e : Envelope)
  | register (r : Registry) (m : OperationModule)
  | load (serial : Nat) (f : Declaration.SourceFile)

/-- The entries of a call. -/
def Call.journal : Call → List Entry
  | decode r e => (r.decode e).journal
  | decodeBy m r e => (m.decode r e).journal
  | register r m => (r.registerModuleLogged m).journal
  | load serial f => (Declaration.load serial f).journal

/-- The texts from outside that a report on decoding shows. -/
def decodingTexts (owner : String) (e : Envelope) : Except Fault Record → List String
  | .ok x => [owner, x.header.operation, e.id, x.header.subspaceId]
  | .error (.rejected _) => [e.id]
  | .error _ => []

/-- The texts from outside that the entries of a call show. -/
def Call.texts : Call → List String
  | decode r e => decodingTexts (((r.owner? e.kind).map (·.name)).getD "") e (Routing.outcome r e)
  | decodeBy m r e => decodingTexts m.name e (Routing.outcomeWith m r e)
  | register r m =>
    match r.registerModule m with
    | .ok _ => [m.name]
    | .error _ => []
  | load serial f =>
    match (Declaration.load serial f).outcome with
    | .ok m => [m.name, f.path]
    | .error _ => []

variable {clock : Nat}

theorem lines_report (owner : String) (e : Envelope) (outcome : Except Fault Record) :
    (∀ x ∈ Routing.report owner e outcome, IsLine (x.line clock) x.message) ↔
      ∀ s ∈ decodingTexts owner e outcome, Verbatim s := by
  have name : Verbatim "Subspace.Dispatch" := by decide
  cases outcome with
  | ok record =>
    have fixed : Verbatim "decoded " ∧ Verbatim "/" ∧ Verbatim " id=" ∧ Verbatim " sid=" := by
      decide
    refine List.forall_mem_singleton.trans ((isLine_iff name).trans ?_)
    simp [verbatim_append, verbatim_shownId, decodingTexts, fixed, and_assoc]
  | error fault =>
    cases fault with
    | rejected rejection =>
      have fixed : Verbatim "rejected envelope id=" ∧ Verbatim " kind=" ∧ Verbatim ": " := by
        decide
      refine List.forall_mem_singleton.trans ((isLine_iff name).trans ?_)
      simp only [verbatim_append, verbatim_shownId, verbatim_intText, verbatim_label,
        decodingTexts, List.forall_mem_singleton, fixed, true_and, and_true]
    | _ => simp [Routing.report, decodingTexts]

theorem lines_decode (r : Registry) (e : Envelope) :
    (∀ x ∈ (r.decode e).journal, IsLine (x.line clock) x.message) ↔
      ∀ s ∈ (Call.decode r e).texts, Verbatim s := by
  have journal : (r.decode e).journal =
      Routing.report (((r.owner? e.kind).map (·.name)).getD "") e (Routing.outcome r e) := by
    rw [Registry.decode]
    cases r.owner? e.kind <;> rfl
  rw [journal, Call.texts]
  exact lines_report _ e _

theorem isLine_registered (m : OperationModule) :
    IsLine ((Registry.registeredEntry m).line clock) (Registry.registeredEntry m).message ↔
      Verbatim m.name := by
  have name : Verbatim "Subspace.Registry" := by decide
  have fixed : Verbatim "module registered: '" ∧ Verbatim "' (" ∧ Verbatim " kinds)" := by decide
  refine (isLine_iff name).trans ?_
  simp only [Registry.registeredEntry, verbatim_append, verbatim_natText, fixed, true_and, and_true]

theorem isLine_loaded (m : OperationModule) (f : Declaration.SourceFile) :
    IsLine ((Declaration.loadedEntry m f).line clock) (Declaration.loadedEntry m f).message ↔
      Verbatim m.name ∧ Verbatim f.path := by
  have name : Verbatim "Subspace.Schema" := by decide
  have fixed : Verbatim "module schema loaded: '" ∧ Verbatim "' from " := by decide
  refine (isLine_iff name).trans ?_
  simp only [Declaration.loadedEntry, verbatim_append, fixed, true_and, and_true]

/-- All entries of a call are written as lines that show their messages exactly when the texts from
outside that they show stand for themselves in a JSON text. -/
theorem lines_iff_verbatim_texts (call : Call) (clock : Nat) :
    (∀ e ∈ call.journal, IsLine (e.line clock) e.message) ↔ ∀ s ∈ call.texts, Verbatim s := by
  cases call with
  | decode r e => exact lines_decode r e
  | decodeBy m r e => exact lines_report m.name e _
  | register r m =>
    rw [Call.journal, Call.texts, Registry.registerModuleLogged]
    cases r.registerModule m with
    | ok r' => simpa only [List.forall_mem_singleton] using isLine_registered m
    | error fault => simp
  | load serial f =>
    rw [Call.journal, Call.texts, Declaration.load]
    split
    · next m _ => simpa [List.forall_mem_singleton] using isLine_loaded m f
    · simp

/-- An envelope whose identifier is a quote. -/
def quotedId : Envelope := ⟨"\"", "", 1700000000, 0, [], "", none⟩

/-- An identifier is shown as it is, also where it ends the text it stands in. -/
theorem not_lines_quotedId :
    ¬ ∀ e ∈ (Call.decode Catalogue.registry quotedId).journal,
      IsLine (e.line 1700000000) e.message := by
  have unknown : Routing.outcome Catalogue.registry quotedId =
      .error (.rejected (.unknownKind 0)) := by
    rfl
  rw [Call.journal, lines_decode, Call.texts, unknown]
  decide

end SubspaceOps.Journal

import PacketFilter.Config.Writer
import PacketFilter.Proofs.Config.MemberOrder
import PacketFilter.Proofs.Json.Drafting

/-!
Configurations are read back from the documents that they are written as. Apart from the document
that is printed these are the ones with the members of the configuration and of its mode in any
order, with further members of other names, and without the parts that would be the same if they
were missing.
-/

namespace PacketFilter

namespace Json

/-- Values that are no numbers and hold no others. -/
inductive IsPlain : Json → Prop where
  | null : IsPlain .null
  | bool (value : Bool) : IsPlain (.bool value)
  | string (value : String) : IsPlain (.string value)

/-- The members are the given ones, in any order, and plain ones with names that are not known. -/
def Arranges (known : List String) (given members : List (String × Json)) : Prop :=
  ∃ added, members.Perm (given ++ added) ∧ ∀ member ∈ added, member.1 ∉ known ∧ member.2.IsPlain

variable {json : Json} {known : List String} {given members : List (String × Json)}

theorem IsPlain.skip_draft (plain : json.IsPlain) : json.draft.skip = .ok () := by
  cases plain <;> rfl

theorem IsPlain.takeIn_draft (plain : json.IsPlain) (room : Nat) :
    json.draft.takeIn room = .ok () := by
  cases plain <;> rfl

theorem draft_number {value : Nat} (fits : value < 2 ^ 64) :
    (number value).draft = .number (.natural value) :=
  congrArg Draft.number (Number.ofNat_of_lt fits)

theorem arranges_self (known : List String) (members : List (String × Json)) :
    Arranges known members members :=
  ⟨[], by rw [List.append_nil], nofun⟩

theorem Arranges.perm_drafts (arranges : Arranges known given members) :
    ∃ added, (memberDrafts (given ++ added)).Perm (memberDrafts members) ∧
      ∀ member ∈ added, member.1 ∉ known ∧ member.2.IsPlain := by
  obtain ⟨added, perm, unknown⟩ := arranges
  refine ⟨added, ?_, unknown⟩
  rw [memberDrafts_eq_map, memberDrafts_eq_map]
  exact (perm.map _).symm

end Json

namespace ModeType

def name : ModeType → String
  | classifier => "classifier"
  | filter => "filter"

end ModeType

namespace Mode

def type : Mode → ModeType
  | classifier _ => .classifier
  | filter _ => .filter

def part : Mode → Json
  | classifier output => (output.map .number).getD .null
  | filter action => .string action.name

/-- The documents that a mode is written as. A part that would be the same without may be left
out. -/
inductive IsWrittenAs (mode : Mode) : Json → Prop where
  | whole {members} :
      Json.Arranges ["type", mode.type.partName]
        [("type", .string mode.type.name), (mode.type.partName, mode.part)] members →
      IsWrittenAs mode (.object members)
  | short {members} : mode = .classifier none ∨ mode = .filter .default →
      Json.Arranges ["type", mode.type.partName] [("type", .string mode.type.name)] members →
      IsWrittenAs mode (.object members)

theorem isWrittenAs_document (mode : Mode) : mode.IsWrittenAs mode.document := by
  cases mode <;> exact .whole (Json.arranges_self ..)

end Mode

/-- The documents that a configuration is written as. The default mode may be left out. -/
inductive Config.IsWrittenAs (config : Config) : Json → Prop where
  | whole {mode members} : config.mode.IsWrittenAs mode →
      Json.Arranges ["expressions", "mode"]
        [("expressions", .array (config.expressions.map .string)), ("mode", mode)] members →
      IsWrittenAs config (.object members)
  | short {members} : config.mode = .default →
      Json.Arranges ["expressions", "mode"]
        [("expressions", .array (config.expressions.map .string))] members →
      IsWrittenAs config (.object members)

theorem Config.isWrittenAs_document (config : Config) : config.IsWrittenAs config.document :=
  .whole config.mode.isWrittenAs_document (Json.arranges_self ..)

namespace ModeType

variable {members : List (String × Json)}

theorem ofMembers_of_others (room : Nat) (found : Option ModeType)
    (others : ∀ member ∈ members, member.1 ≠ "type" ∧ member.2.draft.takeIn room = .ok ()) :
    ofMembers room found (Json.memberDrafts members) = .ok found := by
  induction members with
  | nil => rfl
  | cons member rest inductionHypothesis =>
      obtain ⟨⟨other, taken⟩, others⟩ := List.forall_mem_cons.1 others
      rw [Json.memberDrafts, ofMembers_cons_eq_ok_iff]
      exact ⟨found, .other other taken, inductionHypothesis others⟩

theorem read_name (type : ModeType) : read (.string (some type.name)) = .ok type := by
  cases type <;> rfl

/-- The type is told in front of the other members. -/
theorem ofMembers_type (room : Nat) (type : ModeType)
    (others : ∀ member ∈ members, member.1 ≠ "type" ∧ member.2.draft.takeIn room = .ok ()) :
    ofMembers room none (Json.memberDrafts (("type", .string type.name) :: members)) =
      .ok (some type) := by
  rw [Json.memberDrafts, ofMembers_cons_eq_ok_iff]
  exact ⟨some type, .type type.read_name, ofMembers_of_others room (some type) others⟩

theorem partName_ne_type (type : ModeType) : type.partName ≠ "type" := by
  cases type <;> decide

end ModeType

namespace Json.Draft

variable {name other : String} {members : List (Option String × Draft)}

theorem onlyMember?_cons_of_ne (apart : other ≠ name) (value : Draft)
    (members : List (Option String × Draft)) :
    onlyMember? name ((some other, value) :: members) = onlyMember? name members := by
  simp [onlyMember?, apart]

theorem onlyMember?_cons_self (value : Draft) (absent : onlyMember? name members = .ok none) :
    onlyMember? name ((some name, value) :: members) = .ok (some value) := by
  unfold onlyMember? at absent ⊢
  rw [List.filter_cons_of_pos (by simp)]
  split at absent
  · rename_i empty
    rw [empty]
  all_goals cases absent

theorem onlyMember?_eq_none {members : List (String × Json)}
    (absent : ∀ member ∈ members, member.1 ≠ name) :
    onlyMember? name (memberDrafts members) = .ok none := by
  induction members with
  | nil => rfl
  | cons member rest inductionHypothesis =>
      obtain ⟨apart, absent⟩ := List.forall_mem_cons.1 absent
      rw [memberDrafts, onlyMember?_cons_of_ne apart]
      exact inductionHypothesis absent

end Json.Draft

namespace Mode

variable {mode : Mode} {json : Json} {members added : List (String × Json)}

theorem takeIn_part (fits : ∀ output ∈ mode.defaultOutput, output < 2 ^ 64) (room : Nat) :
    mode.part.draft.takeIn room = .ok () := by
  match mode with
  | .classifier none | .filter _ => rfl
  | .classifier (some output) =>
      rw [part, Option.map_some, Option.getD_some, Json.draft_number (fits output rfl)]
      rfl

theorem mode_part (fits : ∀ output ∈ mode.defaultOutput, output < 2 ^ 64) :
    mode.type.mode (some mode.part.draft) = .ok mode := by
  match mode with
  | .classifier none | .filter .logOnly | .filter .gate => rfl
  | .classifier (some output) =>
      rw [part, Option.map_some, Option.getD_some, Json.draft_number (fits output rfl)]
      rfl

theorem mode_none (isDefault : mode = .classifier none ∨ mode = .filter .default) :
    mode.type.mode none = .ok mode := by
  rcases isDefault with rfl | rfl <;> rfl

/-- Members with plain values and unknown names are taken in, and none of them is the part. -/
theorem of_unknown
    (unknown : ∀ member ∈ added, member.1 ∉ ["type", mode.type.partName] ∧ member.2.IsPlain)
    (room : Nat) :
    (∀ member ∈ added, member.1 ≠ "type" ∧ member.2.draft.takeIn room = .ok ()) ∧
      Json.Draft.onlyMember? mode.type.partName (Json.memberDrafts added) = .ok none := by
  constructor
  · intro member listed
    obtain ⟨other, plain⟩ := unknown member listed
    exact ⟨fun same => other (by simp [same]), plain.takeIn_draft room⟩
  · refine Json.Draft.onlyMember?_eq_none fun member listed same => ?_
    exact (unknown member listed).1 (by simp [same])

theorem read_of_type {room : Nat} {value : Option Json.Draft}
    (others : ∀ member ∈ members, member.1 ≠ "type" ∧ member.2.draft.takeIn room = .ok ())
    (only : Json.Draft.onlyMember? mode.type.partName (Json.memberDrafts members) = .ok value)
    (understood : mode.type.mode value = .ok mode) :
    read room (.object
      (Json.memberDrafts (("type", .string mode.type.name) :: members)) none) = .ok mode := by
  have same := Json.Draft.onlyMember?_cons_of_ne mode.type.partName_ne_type.symm
    (Json.string mode.type.name).draft (Json.memberDrafts members)
  rw [read, ModeType.ofMembers_type room mode.type others, ok_bind, Json.Draft.readEnd, ok_bind,
    Json.memberDrafts]
  dsimp only
  rw [same, only]
  exact understood

/-- A mode is read from every document that it is written as. -/
theorem IsWrittenAs.read (written : mode.IsWrittenAs json)
    (fits : ∀ output ∈ mode.defaultOutput, output < 2 ^ 64) (room : Nat) :
    Mode.read room json.draft = .ok mode := by
  cases written with
  | whole arranges =>
      obtain ⟨added, perm, unknown⟩ := arranges.perm_drafts
      obtain ⟨others, noPart⟩ := of_unknown unknown room
      have others : ∀ member ∈ (mode.type.partName, mode.part) :: added,
          member.1 ≠ "type" ∧ member.2.draft.takeIn room = .ok () :=
        List.forall_mem_cons.2 ⟨⟨mode.type.partName_ne_type, takeIn_part fits room⟩, others⟩
      have only := Json.Draft.onlyMember?_cons_self mode.part.draft noPart
      exact read_perm perm (read_of_type others only (mode_part fits))
  | short isDefault arranges =>
      obtain ⟨added, perm, unknown⟩ := arranges.perm_drafts
      obtain ⟨others, noPart⟩ := of_unknown unknown room
      exact read_perm perm (read_of_type others noPart (mode_none isDefault))

end Mode

namespace Config

variable {config : Config} {json : Json} {members : List (String × Json)}

theorem readStrings_draft (expressions : List String) :
    (Json.array (expressions.map .string)).draft.readStrings = .ok expressions := by
  have read : (Json.itemDrafts (expressions.map .string)).mapM Json.Draft.readString =
      .ok expressions := by
    induction expressions with
    | nil => rfl
    | cons expression rest inductionHypothesis =>
        rw [List.map_cons, Json.itemDrafts, List.mapM_cons, inductionHypothesis]
        rfl
  rw [Json.draft, Json.Draft.readStrings, read]
  rfl

theorem readMembers_of_unknown (expressions : Option (List String)) (mode : Option Mode)
    (unknown : ∀ member ∈ members, member.1 ∉ ["expressions", "mode"] ∧ member.2.IsPlain) :
    readMembers expressions mode (Json.memberDrafts members) = .ok (expressions, mode) := by
  induction members with
  | nil => rfl
  | cons member rest inductionHypothesis =>
      obtain ⟨⟨other, plain⟩, unknown⟩ := List.forall_mem_cons.1 unknown
      obtain ⟨noExpressions, noMode⟩ : member.1 ≠ "expressions" ∧ member.1 ≠ "mode" := by
        simpa using other
      rw [Json.memberDrafts, readMembers_cons_eq_ok_iff]
      exact ⟨(expressions, mode), .other noExpressions noMode plain.skip_draft,
        inductionHypothesis unknown⟩

/-- A configuration is read from every document that it is written as. -/
theorem IsWrittenAs.ofDraft (written : config.IsWrittenAs json)
    (fits : ∀ output ∈ config.mode.defaultOutput, output < 2 ^ 64) :
    Config.ofDraft json.draft = .ok config := by
  have expressions := readStrings_draft config.expressions
  cases written with
  | whole mode arranges =>
      obtain ⟨added, perm, unknown⟩ := arranges.perm_drafts
      have read := mode.read fits nestingRoom
      refine ofDraft_perm perm (bind_eq_ok.2 ⟨(some config.expressions, some config.mode), ?_, rfl⟩)
      refine readMembers_cons_eq_ok_iff.2 ⟨_, .expressions expressions, ?_⟩
      refine readMembers_cons_eq_ok_iff.2 ⟨_, .mode read, ?_⟩
      exact readMembers_of_unknown _ _ unknown
  | short isDefault arranges =>
      obtain ⟨added, perm, unknown⟩ := arranges.perm_drafts
      refine ofDraft_perm perm (bind_eq_ok.2 ⟨(some config.expressions, none), ?_, ?_⟩)
      · refine readMembers_cons_eq_ok_iff.2 ⟨_, .expressions expressions, ?_⟩
        exact readMembers_of_unknown _ _ unknown
      · obtain ⟨_, _⟩ := config
        cases isDefault
        rfl

/-- A configuration is read back from the document that is printed of it and from all others that it
is written as, and the programs built from what was read are those of its expressions and mode. -/
theorem read_isWrittenAs (config : Config)
    (fits : ∀ output ∈ config.mode.defaultOutput, output < 2 ^ 64) :
    config.IsWrittenAs config.document ∧ read config.document.text = .ok config ∧
      ∀ json, config.IsWrittenAs json → ∃ decoded, read json.text = .ok decoded ∧
        decoded = config ∧
        ProgramSet.ofConfig decoded = ProgramSet.compile config.expressions config.mode := by
  have all : ∀ json, config.IsWrittenAs json → read json.text = .ok config := by
    intro json written
    rw [read, Json.read_text]
    exact bind_eq_ok.2 ⟨config, written.ofDraft fits, rfl⟩
  have printed := config.isWrittenAs_document
  exact ⟨printed, all _ printed, fun json written => ⟨config, all json written, rfl, rfl⟩⟩

/-- Expressions with characters that are escaped and others that are not, and the greatest default
output. -/
def demanding : Config :=
  ⟨["tcp \"port\" \\ 80", "\u0000\n\u001f", "\u00e9\u20ac", ""], .classifier (some (2 ^ 64 - 1))⟩

/-- A document in which the type comes behind the part that it is about. -/
def demandingDocument : Json :=
  .object [("note", .string "\x7d"),
    ("mode", .object [("action", .bool true), ("default_output", .number (2 ^ 64 - 1)),
      ("type", .string "classifier")]),
    ("expressions", .array (demanding.expressions.map .string))]

theorem read_isWrittenAs_of_demanding :
    (∀ output ∈ demanding.mode.defaultOutput, output < 2 ^ 64) ∧
      read demanding.document.text = .ok demanding ∧
      demanding.IsWrittenAs demandingDocument ∧
      ∃ decoded, read demandingDocument.text = .ok decoded ∧ decoded = demanding := by
  have fits : ∀ output ∈ demanding.mode.defaultOutput, output < 2 ^ 64 := by
    rintro _ ⟨⟩
    decide
  have mode : demanding.mode.IsWrittenAs (.object [("action", .bool true),
      ("default_output", .number (2 ^ 64 - 1)), ("type", .string "classifier")]) :=
    .whole ⟨[("action", .bool true)],
      List.reverse_perm [("type", _), ("default_output", _), ("action", _)],
      List.forall_mem_singleton.2 ⟨by decide, .bool true⟩⟩
  have written : demanding.IsWrittenAs demandingDocument :=
    .whole mode ⟨[("note", .string "\x7d")],
      List.reverse_perm [("expressions", _), ("mode", _), ("note", _)],
      List.forall_mem_singleton.2 ⟨by decide, .string "\x7d"⟩⟩
  obtain ⟨_, printed, others⟩ := read_isWrittenAs demanding fits
  obtain ⟨decoded, again, same, _⟩ := others _ written
  exact ⟨fits, printed, written, decoded, again, same⟩

end Config

end PacketFilter

import PacketFilter.Json.Draft
import PacketFilter.ProgramSet.Basic

/-!
Reading a configuration from a JSON document. The document is read in the order of its text, and
the first fault met is the one reported, whether the text is at fault or its meaning: a value of
the wrong kind, a missing or repeated member, an unknown name. Members with other names are
skipped. Configurations and modes may also be written as arrays of their parts.

What the parts of a mode mean depends on its type, which may come last, and so they are taken in
first and understood once the mode has ended.
-/

namespace PacketFilter

inductive ConfigFault where
  | malformed
  | truncated
  /-- The document is JSON and does not mean a configuration. -/
  | unsuitable
  deriving DecidableEq, Repr

namespace ConfigFault

def ofFault : Json.Fault → ConfigFault
  | .malformed => malformed
  | .truncated => truncated

/-- The fault of meeting a value of the wrong kind. Containers are not looked into, other values
are read to their end. -/
def wrongKind : Json.Draft → ConfigFault
  | .string none => malformed
  | .number .outOfRange => malformed
  | .broken place => ofFault place.whenRead
  | _ => unsuitable

end ConfigFault

namespace Json.Draft

def readEnd : Option Break → Except ConfigFault Unit
  | none => .ok ()
  | some place => .error (.ofFault place.whenRead)

def skipEnd : Option Break → Except ConfigFault Unit
  | none => .ok ()
  | some place => .error (.ofFault place.whenSkipped)

mutual

def skip : Draft → Except ConfigFault Unit
  | .array items cut => do
      skipItems items
      skipEnd cut
  | .object members cut => do
      skipMembers members
      skipEnd cut
  | .broken place => .error (.ofFault place.whenSkipped)
  | _ => .ok ()

def skipItems : List Draft → Except ConfigFault Unit
  | [] => .ok ()
  | item :: rest => do
      item.skip
      skipItems rest

def skipMembers : List (Option String × Draft) → Except ConfigFault Unit
  | [] => .ok ()
  | (_, value) :: rest => do
      value.skip
      skipMembers rest

end

mutual

def takeIn (room : Nat) : Draft → Except ConfigFault Unit
  | .array items cut =>
      match room with
      | 0 => .error .malformed
      | room + 1 => do
          takeInItems room items
          readEnd cut
  | .object members cut =>
      match room with
      | 0 => .error .malformed
      | room + 1 => do
          takeInMembers room members
          readEnd cut
  | .string none => .error .malformed
  | .number .outOfRange => .error .malformed
  | .broken place => .error (.ofFault place.whenRead)
  | _ => .ok ()

def takeInItems (room : Nat) : List Draft → Except ConfigFault Unit
  | [] => .ok ()
  | item :: rest => do
      item.takeIn room
      takeInItems room rest

def takeInMembers (room : Nat) : List (Option String × Draft) → Except ConfigFault Unit
  | [] => .ok ()
  | (none, _) :: _ => .error .malformed
  | (some _, value) :: rest => do
      value.takeIn room
      takeInMembers room rest

end

def readString : Draft → Except ConfigFault String
  | .string (some value) => .ok value
  | draft => .error (.wrongKind draft)

def readStrings : Draft → Except ConfigFault (List String)
  | .array items cut => do
      let strings ← items.mapM readString
      readEnd cut
      .ok strings
  | draft => .error (.wrongKind draft)

/-- The member of a name, which may be missing and may not be repeated. -/
def onlyMember? (name : String) (members : List (Option String × Draft)) :
    Except ConfigFault (Option Draft) :=
  match members.filter fun member => member.1 == some name with
  | [] => .ok none
  | [(_, value)] => .ok (some value)
  | _ => .error .unsuitable

end Json.Draft

/-- The containers that may be nested in a mode within a configuration, so that at most 127 are
open at once. -/
def nestingRoom : Nat := 125

inductive ModeType where
  | classifier
  | filter
  deriving DecidableEq, Repr

namespace ModeType

def read : Json.Draft → Except ConfigFault ModeType
  | .string (some "classifier") => .ok classifier
  | .string (some "filter") => .ok filter
  | draft => .error (.wrongKind draft)

def partName : ModeType → String
  | classifier => "default_output"
  | filter => "action"

def readOutput : Json.Draft → Except ConfigFault (Option Nat)
  | .null => .ok none
  | .number (.natural output) => .ok (some output)
  | _ => .error .unsuitable

/-- Understands an action: a name, alone or as the only member of an object that holds nothing. -/
def readAction : Json.Draft → Except ConfigFault Action
  | .string (some name) => ofName name
  | .object [(some name, .null)] none => ofName name
  | .object [(some name, .object [] none)] none => ofName name
  | _ => .error .unsuitable
where
  ofName (name : String) : Except ConfigFault Action :=
    match Action.ofName? name with
    | some action => .ok action
    | none => .error .unsuitable

def mode : ModeType → Option Json.Draft → Except ConfigFault Mode
  | classifier, none => .ok (.classifier none)
  | classifier, some part => (readOutput part).map .classifier
  | filter, none => .ok (.filter .default)
  | filter, some part => (readAction part).map .filter

def ofMembers (room : Nat) (found : Option ModeType) :
    List (Option String × Json.Draft) → Except ConfigFault (Option ModeType)
  | [] => .ok found
  | (none, _) :: _ => .error .malformed
  | (some name, value) :: rest =>
      if name = "type" then
        match found with
        | some _ => .error .unsuitable
        | none => do
            let type ← read value
            ofMembers room (some type) rest
      else do
        value.takeIn room
        ofMembers room found rest

end ModeType

namespace Mode

def read (room : Nat) : Json.Draft → Except ConfigFault Mode
  | .object members cut => do
      let found ← ModeType.ofMembers room none members
      Json.Draft.readEnd cut
      match found with
      | none => .error .unsuitable
      | some type => type.mode (← Json.Draft.onlyMember? type.partName members)
  | .array [] cut => do
      Json.Draft.readEnd cut
      .error .unsuitable
  | .array (first :: parts) cut => do
      let type ← ModeType.read first
      Json.Draft.takeInItems room parts
      Json.Draft.readEnd cut
      match parts with
      | [] => type.mode none
      | [part] => type.mode (some part)
      | _ => .error .unsuitable
  | draft => .error (.wrongKind draft)

end Mode

namespace Config

def readMembers (expressions : Option (List String)) (mode : Option Mode) :
    List (Option String × Json.Draft) → Except ConfigFault (Option (List String) × Option Mode)
  | [] => .ok (expressions, mode)
  | (none, _) :: _ => .error .malformed
  | (some name, value) :: rest =>
      if name = "expressions" then
        match expressions with
        | some _ => .error .unsuitable
        | none => do
            let found ← value.readStrings
            readMembers (some found) mode rest
      else if name = "mode" then
        match mode with
        | some _ => .error .unsuitable
        | none => do
            let found ← Mode.read nestingRoom value
            readMembers expressions (some found) rest
      else do
        value.skip
        readMembers expressions mode rest

def ofDraft : Json.Draft → Except ConfigFault Config
  | .object members cut => do
      let (expressions, mode) ← readMembers none none members
      Json.Draft.readEnd cut
      match expressions with
      | some expressions => .ok ⟨expressions, mode.getD .default⟩
      | none => .error .unsuitable
  | .array [] cut => do
      Json.Draft.readEnd cut
      .error .unsuitable
  | .array [first] cut => do
      let expressions ← first.readStrings
      Json.Draft.readEnd cut
      .ok ⟨expressions, .default⟩
  | .array [first, second] cut => do
      let expressions ← first.readStrings
      let mode ← Mode.read nestingRoom second
      Json.Draft.readEnd cut
      .ok ⟨expressions, mode⟩
  | .array (first :: second :: _) _ => do
      let _ ← first.readStrings
      let _ ← Mode.read nestingRoom second
      .error .malformed
  | draft => .error (.wrongKind draft)

def read (text : String) : Except ConfigFault Config := do
  let document := Json.Document.read text
  let config ← ofDraft document.root
  if document.isFollowed then .error .malformed else .ok config

end Config

end PacketFilter

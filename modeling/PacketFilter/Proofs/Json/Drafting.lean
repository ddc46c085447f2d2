import PacketFilter.Json.Draft
import PacketFilter.Proofs.Json.Lexing

/-!
The drafts of JSON values. The lexemes of a value take the reader from any place where a value has
to stand to the place behind it, whatever containers are open around it, and so the text of a value
is read as that value.
-/

namespace PacketFilter.Json

mutual

/-- The draft of a value that is read to its end. -/
def draft : Json → Draft
  | null => .null
  | bool value => .bool value
  | number value => .number (.ofNat value)
  | string value => .string (some value)
  | array items => .array (itemDrafts items) none
  | object members => .object (memberDrafts members) none

def itemDrafts : List Json → List Draft
  | [] => []
  | item :: rest => item.draft :: itemDrafts rest

def memberDrafts : List (String × Json) → List (Option String × Draft)
  | [] => []
  | (key, value) :: rest => (some key, value.draft) :: memberDrafts rest

end

theorem memberDrafts_eq_map (members : List (String × Json)) :
    memberDrafts members = members.map fun member => (some member.1, member.2.draft) := by
  induction members with
  | nil => rfl
  | cons member rest inductionHypothesis => rw [memberDrafts, inductionHypothesis, List.map_cons]

/-- Lexemes lead from one state to another. -/
def Leads (lexemes : List Lexeme) (here there : State) : Prop :=
  lexemes.foldlM State.step here = .ok there

namespace Leads

variable {first second : List Lexeme} {lexeme : Lexeme} {here between there : State}

theorem one (step : State.step here lexeme = .ok there) : Leads [lexeme] here there := by
  simp [Leads, step]

theorem append (front : Leads first here between) (behind : Leads second between there) :
    Leads (first ++ second) here there := by
  rw [Leads, List.foldlM_append, front]
  exact behind

theorem cons (step : State.step here lexeme = .ok between) (behind : Leads second between there) :
    Leads (lexeme :: second) here there :=
  append (one step) behind

/-- States that take the first lexeme alike are led to the same. -/
theorem congr {other : State} (same : State.step here lexeme = State.step other lexeme)
    (leads : Leads (lexeme :: second) other there) : Leads (lexeme :: second) here there := by
  rw [Leads, List.foldlM_cons] at leads ⊢
  rw [same]
  exact leads

end Leads

variable {outer : List Frame}

theorem exists_spelling_eq_cons (json : Json) :
    ∃ first rest, json.spelling = first :: rest ∧ first ≠ .closeBracket := by
  cases json with
  | array | object => exact ⟨_, _, rfl, nofun⟩
  | _ => exact ⟨_, [], rfl, nofun⟩

/-- In front of its first item an open array is as behind a comma. -/
theorem leads_firstItem {items : List Json} {there : State} (nonempty : items ≠ [])
    (leads : Leads (itemSpelling items) (.valueNext (.array [] :: outer)) there) :
    Leads (itemSpelling items) (.firstItem outer) there := by
  obtain ⟨item, rest, rfl⟩ := List.exists_cons_of_ne_nil nonempty
  obtain ⟨first, others, split, opens⟩ := exists_spelling_eq_cons item
  obtain ⟨behind, whole⟩ : ∃ behind, itemSpelling (item :: rest) = first :: behind := by
    cases rest <;> simp [itemSpelling, split]
  have same : State.step (.firstItem outer) first =
      State.step (.valueNext (.array [] :: outer)) first := by
    cases first with
    | closeBracket => contradiction
    | _ => rfl
  rw [whole] at leads ⊢
  exact leads.congr same

theorem leads_firstKey {members : List (String × Json)} {there : State} (nonempty : members ≠ [])
    (leads : Leads (memberSpelling members) (.keyNext [] outer) there) :
    Leads (memberSpelling members) (.firstKey outer) there := by
  obtain ⟨member, rest, rfl⟩ := List.exists_cons_of_ne_nil nonempty
  cases rest <;> exact leads

mutual

/-- The lexemes of a value lead past it. -/
theorem leads_spelling (json : Json) (outer : List Frame) :
    Leads json.spelling (.valueNext outer) (.behind json.draft outer) := by
  match json with
  | .null | .bool _ | .number _ | .string _ => exact .one rfl
  | .array items =>
      by_cases empty : items = []
      · subst empty
        exact .cons rfl (.one rfl)
      · have inner := leads_itemSpelling items empty [] outer
        refine .cons rfl ((leads_firstItem empty inner).append (.one ?_))
        simp [State.step, draft]
  | .object members =>
      by_cases empty : members = []
      · subst empty
        exact .cons rfl (.one rfl)
      · have inner := leads_memberSpelling members empty [] outer
        refine .cons rfl ((leads_firstKey empty inner).append (.one ?_))
        simp [State.step, draft]

theorem leads_itemSpelling (items : List Json) (nonempty : items ≠ []) (seen : List Draft)
    (outer : List Frame) :
    Leads (itemSpelling items) (.valueNext (.array seen :: outer))
      (.afterItem ((itemDrafts items).reverse ++ seen) outer) := by
  match items with
  | [] => contradiction
  | [item] => exact leads_spelling item (.array seen :: outer)
  | item :: next :: others =>
      have first := leads_spelling item (.array seen :: outer)
      have behind := leads_itemSpelling (next :: others) nofun (item.draft :: seen) outer
      rw [itemDrafts, List.reverse_cons, List.append_assoc]
      exact first.append (.cons rfl behind)

theorem leads_memberSpelling (members : List (String × Json)) (nonempty : members ≠ [])
    (seen : List (Option String × Draft)) (outer : List Frame) :
    Leads (memberSpelling members) (.keyNext seen outer)
      (.afterMember ((memberDrafts members).reverse ++ seen) outer) := by
  match members with
  | [] => contradiction
  | [(key, value)] =>
      exact .cons rfl (.cons rfl (leads_spelling value (.object seen (some key) :: outer)))
  | (key, value) :: next :: others =>
      have first := leads_spelling value (.object seen (some key) :: outer)
      have behind := leads_memberSpelling (next :: others) nofun ((some key, value.draft) :: seen)
        outer
      rw [memberDrafts, List.reverse_cons, List.append_assoc]
      exact .cons rfl (.cons rfl (first.append (.cons rfl behind)))

end

/-- The text of a value is read as the value, and nothing is left of it. -/
theorem read_text (json : Json) : Document.read json.text = ⟨json.draft, false⟩ := by
  have lexed := lexemes_chars json (show EndsNumeral [] from nofun)
  rw [List.append_nil, lexemes, List.append_nil] at lexed
  have leads : json.spelling.foldlM State.step (.valueNext []) = .ok (.finished json.draft) :=
    leads_spelling json []
  rw [Document.read, text, String.toList_ofList, lexed, Document.ofLexemes, leads]
  rfl

end PacketFilter.Json

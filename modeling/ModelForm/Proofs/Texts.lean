import ModelForm.Proofs.BracketTexts

/-!
Reading what was written. A value that is written, on one line or over several, is read as
the document of the value, with its members in the order in which they were written. Two
things limit this: nesting is read up to a depth only, and a double has to be legible, for
the reader does not always round its digits to the nearest. Strings, and integers of the
64-bit ranges, are read back whatever they are.
-/

namespace ModelForm

namespace Json

/-- A value that is read back from its text: numbers are legible, and there is room for all
brackets. -/
inductive Legible : Nat → Json → Prop
  | null (room : Nat) : Legible room .null
  | bool (room : Nat) (b : Bool) : Legible room (.bool b)
  | number (room : Nat) (n : Number) (h : n.Legible) : Legible room (.number n)
  | string (room : Nat) (s : String) : Legible room (.string s)
  | array (room : Nat) (items : List Json) (h : ∀ v ∈ items, Legible room v) :
      Legible (room + 1) (.array items)
  | object (room : Nat) (members : Object) (h : ∀ m ∈ members, Legible room m.2) :
      Legible (room + 1) (.object members)

/-! The texts of arrays and objects, from those of their items and members. -/

theorem toList_compactItems (items : List Json) :
    (compactItems items).toList =
      (items.map fun v => v.compact.toList).flatMap (',' :: ·) := by
  induction items with
  | nil => rfl
  | cons v rest ih => simp [compactItems, ih]

theorem toList_compact_array (items : List Json) :
    (Json.array items).compact.toList =
      '[' :: Document.partsText ']' [] (items.map fun v => v.compact.toList) := by
  cases items with
  | nil => rfl
  | cons v rest => simp [compact, Document.partsText, toList_compactItems]

def compactMember (m : String × Json) : List Char :=
  '"' :: Document.memberTail m.1 m.2.compact.toList

theorem toList_compactMembers (members : Object) :
    (compactMembers members).toList = (members.map compactMember).flatMap (',' :: ·) := by
  induction members with
  | nil => rfl
  | cons m rest ih =>
    obtain ⟨key, v⟩ := m
    simp [compactMembers, compactMember, Document.memberTail, Document.toList_quoted, ih]

theorem toList_compact_object (members : Object) :
    (Json.object members).compact.toList =
      '\x7b' :: Document.partsText '\x7d' [] (members.map compactMember) := by
  cases members with
  | nil => rfl
  | cons m rest =>
    obtain ⟨key, v⟩ := m
    simp [compact, compactMember, Document.memberTail, Document.partsText,
      Document.toList_quoted, toList_compactMembers]

def indentedItem (depth : Nat) (v : Json) : List Char :=
  (indentation depth).toList ++ (v.indented depth).toList

theorem toList_indentedItems (depth : Nat) (items : List Json) :
    (indentedItems depth items).toList =
      (items.map (indentedItem depth)).flatMap (',' :: ·) := by
  induction items with
  | nil => rfl
  | cons v rest ih => simp [indentedItems, indentedItem, ih]

theorem toList_indented_array (depth : Nat) (items : List Json) :
    ((Json.array items).indented depth).toList =
      '[' :: Document.partsText ']' (indentation depth).toList
        (items.map (indentedItem (depth + 1))) := by
  cases items with
  | nil => simp [indented, Document.partsText]
  | cons v rest => simp [indented, indentedItem, Document.partsText, toList_indentedItems]

def indentedMember (depth : Nat) (m : String × Json) : List Char :=
  (indentation depth).toList ++
    '"' :: Document.memberTail m.1 (' ' :: (m.2.indented depth).toList)

theorem toList_indentedMembers (depth : Nat) (members : Object) :
    (indentedMembers depth members).toList =
      (members.map (indentedMember depth)).flatMap (',' :: ·) := by
  induction members with
  | nil => rfl
  | cons m rest ih =>
    obtain ⟨key, v⟩ := m
    simp [indentedMembers, indentedMember, Document.memberTail, Document.toList_quoted, ih]

theorem toList_indented_object (depth : Nat) (members : Object) :
    ((Json.object members).indented depth).toList =
      '\x7b' :: Document.partsText '\x7d' (indentation depth).toList
        (members.map (indentedMember (depth + 1))) := by
  cases members with
  | nil => simp [indented, Document.partsText]
  | cons m rest =>
    obtain ⟨key, v⟩ := m
    simp [indented, indentedMember, Document.memberTail, Document.partsText,
      Document.toList_quoted, toList_indentedMembers]

theorem blank_indentation (depth : Nat) : Document.Blank (indentation depth).toList := by
  intro c hc
  simp only [indentation, String.toList_append, List.mem_append, String.toList_ofList,
    List.mem_replicate] at hc
  rcases hc with hc | ⟨-, rfl⟩
  · obtain rfl : c = '\n' := by simpa using hc
    rfl
  · rfl

theorem spells_compact (room : Nat) (v : Json) (h : v.Legible room) :
    Document.Spells room v v.compact.toList := by
  induction h with
  | null room => exact Document.spells_null room
  | bool room b => exact Document.spells_bool room b
  | number room n h => exact Document.spells_number room n h
  | string room s => exact Document.spells_string room s
  | array room items _ ih =>
    rw [toList_compact_array]
    exact Document.spells_array room items _
      (List.forall₂_map_right_iff.mpr (List.forall₂_same.mpr ih)) [] (by simp [Document.Blank])
  | object room members _ ih =>
    rw [toList_compact_object]
    exact Document.spells_object room members _
      (List.forall₂_map_right_iff.mpr (List.forall₂_same.mpr fun m hm =>
        .intro [] _ m.1 m.2 (by simp [Document.Blank]) (ih m hm))) [] (by simp [Document.Blank])

theorem spells_indented (room : Nat) (v : Json) (h : v.Legible room) (depth : Nat) :
    Document.Spells room v (v.indented depth).toList := by
  induction h generalizing depth with
  | null room =>
    rw [indented]
    exact Document.spells_null room
  | bool room b =>
    rw [indented]
    exact Document.spells_bool room b
  | number room n h =>
    rw [indented]
    exact Document.spells_number room n h
  | string room s =>
    rw [indented]
    exact Document.spells_string room s
  | array room items _ ih =>
    rw [toList_indented_array]
    exact Document.spells_array room items _
      (List.forall₂_map_right_iff.mpr (List.forall₂_same.mpr fun v hv =>
        (ih v hv (depth + 1)).after_gap _ (blank_indentation (depth + 1)))) _
      (blank_indentation depth)
  | object room members _ ih =>
    rw [toList_indented_object]
    exact Document.spells_object room members _
      (List.forall₂_map_right_iff.mpr (List.forall₂_same.mpr fun m hm =>
        .intro _ _ m.1 m.2 (blank_indentation (depth + 1))
          ((ih m hm (depth + 1)).after_gap [' '] (by simp [Document.Blank, Document.isBlank])))) _
      (blank_indentation depth)

end Json

namespace Document

theorem ofText_of_spells (v : Json) (text : String) (h : Spells depthLimit v text.toList) :
    ofText text = (ofValue v, true) := by
  have hread := h (3 * text.toList.length + 3) 0 [] (by simp) (by simp) stops_nil
  rw [List.append_nil] at hread
  simp only [ofText, hread]
  rfl

/-- The document of a value is what its text is read as, on one line or over several. -/
theorem ofText_written (v : Json) (h : v.Legible depthLimit) :
    ofText v.compact = (ofValue v, true) ∧ ofText v.pretty = (ofValue v, true) :=
  ⟨ofText_of_spells v _ (v.spells_compact depthLimit h),
    ofText_of_spells v _ (v.spells_indented depthLimit h 0)⟩

end Document

/-- A value is read back from its text, with its members in order. -/
theorem Json.ofText_written (v : Json) (h : v.Legible Document.depthLimit) :
    ofText v.compact = .ok v.sorted ∧ ofText v.pretty = .ok v.sorted := by
  obtain ⟨hcompact, hpretty⟩ := Document.ofText_written v h
  simp only [ofText, hcompact, hpretty, Document.value_ofValue_sorted]
  exact ⟨rfl, rfl⟩

end ModelForm

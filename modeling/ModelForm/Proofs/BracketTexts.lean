import ModelForm.Proofs.Spellings
import Mathlib.Data.List.DropRight
import Mathlib.Data.List.Forall2

/-!
Texts that spell an array or an object, put together from texts that spell its parts. How the parts
of both follow each other up to the closing bracket is the same; what one part is, an item or a
member with its key, is not.
-/

namespace ModelForm.Document

/-! Parts of an array or object, up to its closing bracket. -/

theorem stops_of_isBlank (c : Char) (rest : List Char) (h : isBlank c = true) :
    Stops (c :: rest) := by
  simp only [isBlank, Bool.or_eq_true, beq_iff_eq] at h
  refine stops_cons c rest ?_
  rcases h with ((rfl | rfl) | rfl) | rfl <;> decide

/-- What comes after the last part stops it: blanks or the bracket. -/
theorem stops_append (close rest : List Char) (c : Char) (hclose : Blank close)
    (hc : c.isDigit = false ∧ c ≠ '.' ∧ c ≠ 'e' ∧ c ≠ 'E') : Stops (close ++ c :: rest) := by
  cases close with
  | nil => exact stops_cons c rest hc
  | cons b close => exact stops_of_isBlank b _ (hclose b (List.mem_cons_self ..))

theorem stops_flatMap (texts : List (List Char)) (rest : List Char) (hrest : Stops rest) :
    Stops (texts.flatMap (',' :: ·) ++ rest) := by
  cases texts with
  | nil => exact hrest
  | cons t ts => exact stops_cons ',' _ (by decide)

def partsText (closing : Char) (close : List Char) : List (List Char) → List Char
  | [] => [closing]
  | t :: texts => t ++ texts.flatMap (',' :: ·) ++ close ++ [closing]

section Parts

variable {β : Type} (read : Nat → Bool → List Char → List β × Option Fault × Option (List Char))

/-- Behind a part, the text is read as these parts, with the rest behind the bracket. -/
def Continues (cs : List Char) (parts : List β) (rest : List Char) : Prop :=
  ∀ fuel, 3 * cs.length + 3 ≤ fuel → read fuel false cs = (parts, none, some rest)

/-- The text is read as a part in front of others, be it the first one or one after a comma. -/
structure Part (x : β) (t : List Char) : Prop where
  first : ∀ tail parts rest, Stops tail → Continues read tail parts rest → ∀ fuel,
    3 * (t ++ tail).length + 3 ≤ fuel → read fuel true (t ++ tail) = (x :: parts, none, some rest)
  later : ∀ tail parts rest, Stops tail → Continues read tail parts rest →
    Continues read (',' :: (t ++ tail)) (x :: parts) rest

variable {read} {closing : Char}
  (hclosing : closing.isDigit = false ∧ closing ≠ '.' ∧ closing ≠ 'e' ∧ closing ≠ 'E')
  (hend : ∀ fuel first close rest, Blank close →
    read (fuel + 1) first (close ++ closing :: rest) = ([], none, some rest))
include hclosing hend

theorem continues_parts (close : List Char) (hclose : Blank close) (parts : List β)
    (texts : List (List Char)) (h : List.Forall₂ (Part read) parts texts) (rest : List Char) :
    Continues read (texts.flatMap (',' :: ·) ++ (close ++ closing :: rest)) parts rest := by
  induction h with
  | nil =>
    intro fuel hfuel
    obtain ⟨fuel, rfl⟩ := Nat.exists_eq_add_one_of_ne_zero (show fuel ≠ 0 by omega)
    exact hend fuel false close rest hclose
  | @cons x t parts texts hx _ ih =>
    have hstops := stops_flatMap texts _ (stops_append close rest closing hclose hclosing)
    rw [List.flatMap_cons, List.cons_append, List.cons_append, List.append_assoc]
    exact hx.later _ parts rest hstops ih

theorem read_partsText (close : List Char) (hclose : Blank close) (parts : List β)
    (texts : List (List Char)) (h : List.Forall₂ (Part read) parts texts) (rest : List Char)
    (fuel : Nat) (hfuel : 3 * ((partsText closing close texts).length + rest.length) + 3 ≤ fuel) :
    read fuel true (partsText closing close texts ++ rest) = (parts, none, some rest) := by
  cases h with
  | nil =>
    obtain ⟨fuel, rfl⟩ := Nat.exists_eq_add_one_of_ne_zero (show fuel ≠ 0 by omega)
    exact hend fuel true [] rest (by simp [Blank])
  | @cons x t parts texts hx hparts =>
    have hstops := stops_flatMap texts _ (stops_append close rest closing hclose hclosing)
    have htext : partsText closing close (t :: texts) ++ rest =
        t ++ (texts.flatMap (',' :: ·) ++ (close ++ closing :: rest)) := by
      simp [partsText]
    rw [← List.length_append, htext] at hfuel
    rw [htext]
    exact hx.first _ parts rest hstops
      (continues_parts hclosing hend close hclose parts texts hparts rest) fuel hfuel

end Parts

/-! Arrays. -/

theorem readItems_close (fuel depth : Nat) (first : Bool) (close rest : List Char)
    (hclose : Blank close) :
    readItems (fuel + 1) depth first (close ++ ']' :: rest) = ([], none, some rest) := by
  unfold readItems
  rw [skipBlank_append close _ hclose, skipBlank_of_not ']' rest (by decide)]
  cases first <;> rfl

theorem readItems_comma (fuel depth : Nat) (cs : List Char) :
    readItems (fuel + 1) depth false (',' :: cs) = readItem fuel depth cs := by
  unfold readItems
  rw [skipBlank_of_not ',' cs (by decide)]
  rfl

/-- The first item comes right after the bracket. -/
theorem readItems_first (fuel depth : Nat) (cs : List Char)
    (h : ∃ c t, skipBlank cs = c :: t ∧ c ≠ ']') :
    readItems (fuel + 1) depth true cs = readItem fuel depth cs := by
  obtain ⟨c, t, hcs, hc⟩ := h
  have hskip : skipBlank (c :: t) = skipBlank cs := by
    rw [← hcs]
    exact List.dropWhile_idempotent _ _
  have hitem : readItem fuel depth (c :: t) = readItem fuel depth cs := by
    cases fuel with
    | zero => rw [readItem, readItem]
    | succ fuel => rw [readItem, readItem, readValue_congr fuel depth _ _ hskip]
  rw [← hitem]
  unfold readItems
  rw [hcs]
  split <;> simp_all

section Items

variable {room depth : Nat} (hroom : depth + room ≤ depthLimit) {v : Json} {t : List Char}
  (hv : Spells room v t)
include hroom hv

/-- An item is read, and then those after it. -/
theorem readItem_spelled (tail rest : List Char) (items : List Document) (htail : Stops tail)
    (hitems : Continues (readItems · depth) tail items rest) (fuel : Nat)
    (hfuel : 3 * (t ++ tail).length + 2 ≤ fuel) :
    readItem fuel depth (t ++ tail) = (ofValue v :: items, none, some rest) := by
  have hpos := List.length_pos_iff.mpr (hv.ne_nil (by omega))
  rw [List.length_append] at hfuel
  obtain ⟨fuel, rfl⟩ := Nat.exists_eq_add_one_of_ne_zero (show fuel ≠ 0 by omega)
  have hread := hitems fuel (by omega)
  rw [readItem, hv fuel depth tail (by omega) hroom htail]
  simp only [hread]

theorem part_item : Part (readItems · depth) (ofValue v) t where
  first tail items rest htail hitems fuel hfuel := by
    obtain ⟨fuel, rfl⟩ := Nat.exists_eq_add_one_of_ne_zero (show fuel ≠ 0 by omega)
    have hread := hv _ depth tail (Nat.lt_succ_self _) hroom htail
    refine (readItems_first fuel depth _ (exists_of_readValue _ depth _ _ _ hread)).trans ?_
    exact readItem_spelled hroom hv tail rest items htail hitems fuel (by omega)
  later tail items rest htail hitems fuel hfuel := by
    rw [List.length_cons] at hfuel
    obtain ⟨fuel, rfl⟩ := Nat.exists_eq_add_one_of_ne_zero (show fuel ≠ 0 by omega)
    refine (readItems_comma fuel depth _).trans ?_
    exact readItem_spelled hroom hv tail rest items htail hitems fuel (by omega)

end Items

/-- An array or object within the limit is read as a value. -/
theorem limited_eq_self (depth : Nat) (d : Document) (h : depth ≤ depthLimit) :
    limited depth d = d := if_neg (by omega)

theorem spells_array (room : Nat) (items : List Json) (texts : List (List Char))
    (h : List.Forall₂ (Spells room) items texts) (close : List Char) (hclose : Blank close) :
    Spells (room + 1) (.array items) ('[' :: partsText ']' close texts) := by
  intro fuel depth rest hfuel hroom _
  obtain ⟨fuel, rfl⟩ := Nat.exists_eq_add_one_of_ne_zero (Nat.ne_zero_of_lt hfuel)
  have hparts : List.Forall₂ (Part (readItems · (depth + 1))) (ofItems items) texts := by
    rw [ofItems_eq_map, List.forall₂_map_left_iff]
    exact h.imp fun v t hv => part_item (by omega) hv
  have hread := read_partsText (by decide)
    (fun fuel first close rest => readItems_close fuel (depth + 1) first close rest)
    close hclose _ texts hparts rest fuel (by rw [List.length_cons] at hfuel; omega)
  rw [List.cons_append, readValue, skipBlank_of_not '[' _ (by decide)]
  simp only [hread, limited_eq_self (depth + 1) _ (show depth + 1 ≤ depthLimit by omega)]
  rfl

/-! Objects. -/

theorem readMembers_close (fuel depth : Nat) (first : Bool) (close rest : List Char)
    (hclose : Blank close) :
    readMembers (fuel + 1) depth first (close ++ '\x7d' :: rest) = ([], none, some rest) := by
  unfold readMembers
  rw [skipBlank_append close _ hclose, skipBlank_of_not '\x7d' rest (by decide)]
  cases first <;> rfl

theorem readMembers_comma (fuel depth : Nat) (gap cs : List Char) (hgap : Blank gap) :
    readMembers (fuel + 1) depth false (',' :: (gap ++ '"' :: cs)) = readMember fuel depth cs := by
  have hquote : skipBlank (gap ++ '"' :: cs) = '"' :: cs := by
    rw [skipBlank_append gap _ hgap, skipBlank_of_not '"' cs (by decide)]
  unfold readMembers
  rw [skipBlank_of_not ',' _ (by decide)]
  simp only [hquote]

/-- The first member comes right after the bracket. -/
theorem readMembers_first (fuel depth : Nat) (gap cs : List Char) (hgap : Blank gap) :
    readMembers (fuel + 1) depth true (gap ++ '"' :: cs) = readMember fuel depth cs := by
  unfold readMembers
  rw [skipBlank_append gap _ hgap, skipBlank_of_not '"' cs (by decide)]
  rfl

def memberTail (key : String) (t : List Char) : List Char :=
  key.toList.flatMap Json.escapeChar ++ '"' :: ':' :: t

section Members

variable {room depth : Nat} (hroom : depth + room ≤ depthLimit) (key : String) {v : Json}
  {t : List Char} (hv : Spells room v t)
include hroom hv

/-- A member is read, and then those after it. -/
theorem readMember_spelled (tail rest : List Char)
    (members : List (Except Fault String × Document)) (htail : Stops tail)
    (hmembers : Continues (readMembers · depth) tail members rest) (fuel : Nat)
    (hfuel : 3 * (memberTail key t ++ tail).length + 2 ≤ fuel) :
    readMember fuel depth (memberTail key t ++ tail) =
      ((.ok key, ofValue v) :: members, none, some rest) := by
  simp only [memberTail, List.length_append, List.length_cons] at hfuel
  obtain ⟨fuel, rfl⟩ := Nat.exists_eq_add_one_of_ne_zero (show fuel ≠ 0 by omega)
  have hscan := scanString_quoted fuel [] key.toList (':' :: (t ++ tail)) (by omega)
  have hread := hmembers fuel (by omega)
  have htext : memberTail key t ++ tail =
      key.toList.flatMap Json.escapeChar ++ '"' :: ':' :: (t ++ tail) := by
    simp [memberTail]
  rw [htext, readMember, hscan]
  dsimp only
  rw [skipBlank_of_not ':' _ (by decide)]
  simp only [hv fuel depth tail (by omega) hroom htail, hread]
  simp

/-- The text of a member is its key, possibly after blanks, and its value. -/
theorem part_member (gap : List Char) (hgap : Blank gap) : Part (readMembers · depth)
    (.ok key, ofValue v) (gap ++ '"' :: memberTail key t) where
  first tail members rest htail hmembers fuel hfuel := by
    rw [List.append_assoc, List.cons_append] at hfuel ⊢
    rw [List.length_append, List.length_cons] at hfuel
    obtain ⟨fuel, rfl⟩ := Nat.exists_eq_add_one_of_ne_zero (show fuel ≠ 0 by omega)
    refine (readMembers_first fuel depth gap _ hgap).trans ?_
    exact readMember_spelled hroom key hv tail rest members htail hmembers fuel (by omega)
  later tail members rest htail hmembers fuel hfuel := by
    rw [List.append_assoc, List.cons_append] at hfuel ⊢
    rw [List.length_cons, List.length_append, List.length_cons] at hfuel
    obtain ⟨fuel, rfl⟩ := Nat.exists_eq_add_one_of_ne_zero (show fuel ≠ 0 by omega)
    refine (readMembers_comma fuel depth gap _ hgap).trans ?_
    exact readMember_spelled hroom key hv tail rest members htail hmembers fuel (by omega)

end Members

inductive SpellsMember (room : Nat) : String × Json → List Char → Prop
  | intro (gap t : List Char) (key : String) (v : Json) (hgap : Blank gap) (hv : Spells room v t) :
      SpellsMember room (key, v) (gap ++ '"' :: memberTail key t)

theorem spells_object (room : Nat) (members : Object) (texts : List (List Char))
    (h : List.Forall₂ (SpellsMember room) members texts) (close : List Char)
    (hclose : Blank close) :
    Spells (room + 1) (.object members) ('\x7b' :: partsText '\x7d' close texts) := by
  intro fuel depth rest hfuel hroom _
  obtain ⟨fuel, rfl⟩ := Nat.exists_eq_add_one_of_ne_zero (Nat.ne_zero_of_lt hfuel)
  have hparts : List.Forall₂ (Part (readMembers · (depth + 1))) (ofMembers members) texts := by
    rw [ofMembers_eq_map, List.forall₂_map_left_iff]
    refine h.imp ?_
    rintro _ _ ⟨gap, t, key, v, hgap, hv⟩
    exact part_member (by omega) key hv gap hgap
  have hread := read_partsText (by decide)
    (fun fuel first close rest => readMembers_close fuel (depth + 1) first close rest)
    close hclose _ texts hparts rest fuel (by rw [List.length_cons] at hfuel; omega)
  rw [List.cons_append, readValue, skipBlank_of_not '\x7b' _ (by decide)]
  simp only [hread, limited_eq_self (depth + 1) _ (show depth + 1 ≤ depthLimit by omega)]
  rfl

end ModelForm.Document

import ModelForm.Number.Decimal

/-!
Values of documents. A number is an integer of the 64-bit ranges or a double; the
members of an object are kept in the order of their keys, each key once.
-/

namespace ModelForm

/-- A number of a document: one written without point and exponent stays an integer. -/
inductive Number where
  | integer (value : Int)
  | double (value : Binary64)
  deriving DecidableEq, Repr, Inhabited

namespace Number

def toDouble : Number → Binary64
  | .integer i => Binary64.ofInt i
  | .double x => x

def text : Number → String
  | .integer i => toString i
  | .double x => x.inDocument

end Number

inductive Json where
  | null
  | bool (value : Bool)
  | number (value : Number)
  | string (value : String)
  | array (items : List Json)
  | object (members : List (String × Json))
  deriving Repr, Inhabited

/-- The members of an object, in ascending order of their keys. -/
abbrev Object := List (String × Json)

namespace Object

def get? (o : Object) (key : String) : Option Json :=
  match o with
  | [] => none
  | (k, v) :: rest => if k = key then some v else get? rest key

def insert (o : Object) (key : String) (value : Json) : Object :=
  match o with
  | [] => [(key, value)]
  | (k, v) :: rest =>
    if k = key then (key, value) :: rest
    else if key < k then (key, value) :: (k, v) :: rest
    else (k, v) :: insert rest key value

def erase (o : Object) (key : String) : Object :=
  o.filter fun member => member.1 ≠ key

def keys (o : Object) : List String := o.map Prod.fst

/-- The object with the given members; of members with one key the last counts. -/
def ofList (members : List (String × Json)) : Object :=
  members.foldl (fun o member => o.insert member.1 member.2) []

theorem get?_insert_self (o : Object) (key : String) (value : Json) :
    (o.insert key value).get? key = some value := by
  induction o with
  | nil => simp [insert, get?]
  | cons member rest ih =>
    obtain ⟨k, v⟩ := member
    unfold insert
    split
    · simp [get?]
    · rename_i hne
      split
      · simp [get?]
      · simpa [get?, hne] using ih

theorem get?_insert_of_ne (o : Object) {key other : String} (value : Json) (h : other ≠ key) :
    (o.insert key value).get? other = o.get? other := by
  induction o with
  | nil => simp [insert, get?, Ne.symm h]
  | cons member rest ih =>
    obtain ⟨k, v⟩ := member
    unfold insert
    split
    · rename_i heq
      subst heq
      simp [get?, Ne.symm h]
    · split
      · simp [get?, Ne.symm h]
      · by_cases hk : k = other <;> simp [get?, hk, ih]

theorem get?_erase_self (o : Object) (key : String) : (o.erase key).get? key = none := by
  induction o with
  | nil => rfl
  | cons member rest ih =>
    obtain ⟨k, v⟩ := member
    by_cases hk : k = key
    · simpa [erase, hk] using ih
    · simpa [erase, get?, hk] using ih

theorem get?_erase_of_ne (o : Object) {key other : String} (h : other ≠ key) :
    (o.erase key).get? other = o.get? other := by
  induction o with
  | nil => rfl
  | cons member rest ih =>
    obtain ⟨k, v⟩ := member
    by_cases hk : k = key
    · have hko : ¬ k = other := fun he => h (he ▸ hk)
      simpa [erase, get?, hk, Ne.symm h] using ih
    · by_cases hko : k = other
      · subst hko
        simp [erase, get?, hk]
      · simpa [erase, get?, hk, hko] using ih

end Object

namespace Json

def string? : Json → Option String
  | .string s => some s
  | _ => none

def number? : Json → Option Number
  | .number n => some n
  | _ => none

def object? : Json → Option Object
  | .object members => some members
  | _ => none

def member? (v : Json) (key : String) : Option Json :=
  v.object?.bind (·.get? key)

/-- A double as a value: there is none for what is not finite. -/
def ofDouble (x : Binary64) : Json :=
  if x.isFinite then .number (.double x) else .null

def ofStrings (texts : List String) : Json :=
  .array (texts.map .string)

end Json

end ModelForm

import ModelForm.Number.Literal
import ModelForm.Json.Value
import ModelForm.Unicode.Case

/-!
Values of settings, as all sources give them, and how sources are laid over each other.
Keys are in lower case. A table is merged into the table below it, key by key; every
other value hides what lies below.
-/

namespace ModelForm

inductive Setting where
  | absent
  | bool (value : Bool)
  | integer (value : Int)
  | float (value : Binary64)
  | text (value : String)
  | list (items : List Setting)
  | table (entries : List (String × Setting))
  deriving Repr, Inhabited

namespace Setting

/-- The entries of a table, each key once. -/
abbrev Table := List (String × Setting)

namespace Table

def get? (t : Table) (key : String) : Option Setting :=
  match t with
  | [] => none
  | (k, v) :: rest => if k = key then some v else get? rest key

def put (t : Table) (key : String) (value : Setting) : Table :=
  match t with
  | [] => [(key, value)]
  | (k, v) :: rest => if k = key then (key, value) :: rest else (k, v) :: put rest key value

theorem get?_put_self (t : Table) (key : String) (value : Setting) :
    (t.put key value).get? key = some value := by
  induction t with
  | nil => simp [put, get?]
  | cons e rest ih =>
    obtain ⟨k, v⟩ := e
    by_cases h : k = key <;> simp [put, get?, h, ih]

theorem get?_put_of_ne (t : Table) {key other : String} (value : Setting) (h : other ≠ key) :
    (t.put key value).get? other = t.get? other := by
  induction t with
  | nil => simp [put, get?, Ne.symm h]
  | cons e rest ih =>
    obtain ⟨k, v⟩ := e
    by_cases hk : k = key
    · subst hk
      simp [put, get?, Ne.symm h]
    · by_cases ho : k = other
      · subst ho
        simp [put, get?, hk]
      · simp [put, get?, hk, ho, ih]

end Table

def entries : Setting → Table
  | .table entries => entries
  | _ => []

def items : Setting → List Setting
  | .list items => items
  | _ => []

mutual

/-- Lays a value over what is there. An empty table changes nothing that is there already. -/
def onto : Setting → Option Setting → Setting
  | .table new, old =>
    match old with
    | some (.table below) => .table (ontoAll new below)
    | some other => if new.isEmpty then other else .table (ontoAll new [])
    | none => .table (ontoAll new [])
  | value, _ => value

def ontoAll : List (String × Setting) → Table → Table
  | [], below => below
  | (key, value) :: rest, below =>
    let k := Unicode.lowercase key
    ontoAll rest (below.put k (value.onto (below.get? k)))

end

/-! Keys that spell a way through tables and lists. -/

inductive Step where
  | key (name : String)
  | index (position : Nat)
  deriving DecidableEq, Repr, Inhabited

def isKeyChar (c : Char) : Bool := c.isAlphanum || c == '_' || c == '-' || c == ' '

def readPosition (cs : List Char) : Option (Nat × List Char) :=
  let cs := cs.dropWhile (· == ' ')
  let digits := cs.takeWhile Char.isDigit
  match (cs.dropWhile Char.isDigit).dropWhile (· == ' ') with
  | ']' :: rest => if digits.isEmpty then none else some (Literal.digitsValue digits, rest)
  | _ => none

def readSteps : Nat → List Char → Option (List Step)
  | _, [] => some []
  | 0, _ => none
  | fuel + 1, '.' :: rest =>
    let name := rest.takeWhile isKeyChar
    if name.isEmpty then none
    else (readSteps fuel (rest.dropWhile isKeyChar)).map (.key (String.ofList name) :: ·)
  | fuel + 1, '[' :: rest =>
    match readPosition rest with
    | some (position, rest) => (readSteps fuel rest).map (.index position :: ·)
    | none => none
  | _, _ => none

/-- The steps that a key spells; a key that spells none is one step itself. -/
def stepsOf (key : String) : List Step :=
  let cs := key.toList
  let name := cs.takeWhile isKeyChar
  let steps := if name.isEmpty then none else readSteps cs.length (cs.dropWhile isKeyChar)
  match steps with
  | some steps => .key (String.ofList name) :: steps
  | none => [.key key]

/-- The list with another item at a position, and nothing between its end and there. -/
def setItem (items : List Setting) (position : Nat) (value : Setting) : List Setting :=
  items.take position ++ List.replicate (position - items.length) .absent ++
    value :: items.drop (position + 1)

/-- Lays a value over what is at the end of some steps; what is in the way gives way. -/
def place (value : Setting) : List Step → Option Setting → Setting
  | [], here => value.onto here
  | .key name :: rest, here =>
    let below := (here.getD .absent).entries
    let k := Unicode.lowercase name
    .table (below.put k (place value rest (below.get? k)))
  | .index position :: rest, here =>
    let items := (here.getD .absent).items
    .list (setItem items position (place value rest items[position]?))

def layer (below : Table) (source : List (String × Setting)) : Table :=
  source.foldl (fun t entry => (place entry.2 (stepsOf entry.1) (some (.table t))).entries) below

end Setting

end ModelForm

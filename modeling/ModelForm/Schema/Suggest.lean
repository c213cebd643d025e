import ModelForm.Schema.Basic

/-!
Which member a mistyped name probably means. A name is scored by how well the letters
of the query are found in it one after the other: at the start, at the start of words,
and side by side. Cells of the scoring table that one name leaves behind are still
there for the next.
-/

namespace ModelForm.Suggest

/-- The kinds of characters that matter for where words start. -/
inductive CharClass where
  | outside
  | hard
  | soft
  | upper
  | digit
  | letter
  deriving DecidableEq, Repr, Inhabited

def between (low high c : Char) : Bool := low ≤ c && c ≤ high

def classOf (c : Char) : CharClass :=
  if c = '\x00' then .outside
  else if " /\\|()[]\x7b\x7d".toList.contains c then .hard
  else if between '!' '\'' c || between '*' '.' c || between ':' '@' c || between '^' '\x60' c ||
      c == '~' then .soft
  else if c.isDigit then .digit
  else if c.isUpper then .upper
  else .letter

def placeBonus (before this : CharClass) : Int :=
  match before, this with
  | .outside, _ => 8
  | .hard, _ => 8
  | .soft, _ => 7
  | .letter, .upper => 6
  | .digit, .upper => 6
  | _, _ => 0

def bonusesFrom (before : CharClass) : List Char → List Int
  | [] => []
  | c :: rest => placeBonus before (classOf c) :: bonusesFrom (classOf c) rest

/-- The bonus of each character of a name; the first one counts twice. -/
def bonuses (name : List Char) : Array Int :=
  match bonusesFrom .outside name with
  | [] => #[]
  | first :: rest => (2 * first :: rest).toArray

structure Cell where
  matched : Int
  skipped : Int
  bonus : Int
  deriving DecidableEq, Repr, Inhabited

def lowest : Int := -32768

def Cell.initial : Cell := ⟨lowest, lowest, 0⟩

def sameLetter (exact : Bool) (a b : Char) : Bool :=
  a == b || (!exact && a.toLower == b.toLower)

/-- The places where the letters of the query are first found one after the other, from place `i`
of the name on; none if they are not. -/
def firstPlaces (exact : Bool) : List Char → Nat → List Char → Option (List Nat)
  | [], _, _ => some []
  | _ :: _, _, [] => none
  | q :: query, i, c :: name =>
    if sameLetter exact q c then (firstPlaces exact query (i + 1) name).map (i :: ·)
    else firstPlaces exact (q :: query) (i + 1) name
termination_by query _ name => (name.length, query.length)

/-- The table: two rows of the given number of columns, one after the other. -/
structure Table where
  cells : Array Cell
  columns : Nat
  deriving Inhabited

namespace Table

def get (t : Table) (row column : Nat) : Cell := t.cells.getD (row * t.columns + column) .initial

def set (t : Table) (row column : Nat) (c : Cell) : Table :=
  { t with cells := t.cells.setIfInBounds (row * t.columns + column) c }

def resize (t : Table) (length : Nat) : Table :=
  let size := 2 * (length + 1)
  let kept := t.cells.extract 0 size
  ⟨kept ++ Array.replicate (size - kept.size) Cell.initial, length + 1⟩

def enter (t : Table) (exact : Bool) (worth : Array Int) (row before : Nat) (q c : Char)
    (j : Nat) : Table :=
  let last := t.get row j
  let diagonal := t.get before j
  if sameLetter exact q c then
    let here := worth.getD j 0
    let consecutive := max (max last.bonus here) 4
    let last := { last with bonus := consecutive }
    let t := t.set row j last
    let reached := max (diagonal.matched + consecutive) (diagonal.skipped + here) + 16
    let reached := if q == c then reached else reached - 2
    let current := t.get row (j + 1)
    t.set row (j + 1)
      { current with matched := reached, skipped := max (last.matched - 4) (last.skipped - 1) }
  else
    t.set row (j + 1) ⟨lowest, max (last.matched - 4) (last.skipped - 1), 0⟩

def enterAll (t : Table) (exact : Bool) (worth : Array Int) (row before : Nat) (q : Char) (j : Nat) :
    List Char → Table
  | [] => t
  | c :: rest =>
    (t.enter exact worth row before q c j).enterAll exact worth row before q (j + 1) rest

def enterQuery (t : Table) (exact : Bool) (worth : Array Int) (name : List Char) (i : Nat) :
    List (Char × Nat) → Table
  | [] => t
  | (q, first) :: rest =>
    (t.enterAll exact worth ((i + 1) % 2) (i % 2) q first (name.drop first)).enterQuery exact worth
      name (i + 1) rest

def prepare (t : Table) (length first : Nat) : Table :=
  let t := (t.resize length).set 1 first .initial
  (List.range (length + 1)).foldl (fun t column => t.set 0 column ⟨lowest, -1, 0⟩) t

def best (t : Table) (row from_ : Nat) : Int :=
  ((List.range (t.columns - from_)).map fun k => (t.get row (from_ + k)).matched).foldl max
    (t.get row from_).matched

end Table

def score (query : List Char) (t : Table) (name : List Char) : Option Int × Table :=
  let exact := query.any Char.isUpper
  match firstPlaces exact query 0 name with
  | none => (none, t)
  | some [] => (some 0, t)
  | some (first :: places) =>
    let t := t.prepare name.length first
    let t := t.enterQuery exact (bonuses name) name 0 (query.zip (first :: places))
    (some (t.best (query.length % 2) ((first :: places).getLastD first)), t)

/-- The best of several names, with its score; of equal ones the last. -/
def bestOf (query : List Char) : Table → Option (Int × String) → List String → Option String
  | _, found, [] => found.map Prod.snd
  | t, found, name :: rest =>
    match score query t name.toList with
    | (none, t) => bestOf query t found rest
    | (some n, t) =>
      match found with
      | some (best, _) => bestOf query t (if best ≤ n then some (n, name) else found) rest
      | none => bestOf query t (some (n, name)) rest

def closest (names : List String) (query : String) : Option String :=
  bestOf query.toList ⟨#[], 0⟩ none names

end ModelForm.Suggest

namespace ModelForm.Members

def suggest (ms : Members) (name : String) : Option String := Suggest.closest ms.names name

end ModelForm.Members

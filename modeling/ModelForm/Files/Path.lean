/-!
Path texts: parts between slashes. A path that starts with a slash is absolute; every
other one is taken from some directory.
-/

namespace ModelForm.Path

/-- The pieces between the separators of a text; there is always one more than separators. -/
def pieces (separator : Char) : List Char → List (List Char)
  | [] => [[]]
  | c :: rest =>
    if c = separator then [] :: pieces separator rest
    else
      match pieces separator rest with
      | [] => [[c]]
      | piece :: others => (c :: piece) :: others

theorem length_pieces (separator : Char) (cs : List Char) :
    (pieces separator cs).length = cs.count separator + 1 := by
  induction cs with
  | nil => rfl
  | cons c rest ih =>
    by_cases h : c = separator
    · simp [pieces, h, ih]
    · cases hp : pieces separator rest with
      | nil => simp [hp] at ih
      | cons piece others => simpa [pieces, h, hp] using ih

/-- The parts of a path. An empty part stays where it is, and means the same as a dot. -/
def parts (path : String) : List String :=
  (pieces '/' path.toList).map String.ofList

def isAbsolute (path : String) : Bool := path.toList.head? == some '/'

def dropHere (names : List String) : List String :=
  names.dropWhile fun name => name.isEmpty || name == "."

/-- The parts of a path from the root, with every parent step taken back. -/
def settled (names : List String) : List String :=
  names.foldl (fun done name =>
    if name.isEmpty || name == "." then done
    else if name == ".." then done.dropLast
    else done ++ [name]) []

def seenFrom (directory path : String) : String :=
  if isAbsolute path then path
  else
    directory ++ "/" ++ "/".intercalate (dropHere (dropHere (parts path)).reverse).reverse

/-- What follows the last dot of a name, unless the name starts with that dot. -/
def extension? (name : String) : Option String :=
  let reversed := name.toList.reverse
  match reversed.dropWhile (· ≠ '.') with
  | _ :: _ :: _ => some (String.ofList (reversed.takeWhile (· ≠ '.')).reverse)
  | _ => none

def lastExtension? (path : String) : Option String :=
  (parts path).getLast?.bind extension?

end ModelForm.Path

import ModelForm.Settings.Value

/-!
Settings files as they are put together line by line. A table comes about by its own
header, by a header of a table within it, or by a dotted key; only one of these ways
may define it, and nothing is defined twice.
-/

namespace ModelForm.Toml

/-- How a table came about: by its header, by a header below it, or by a dotted key. -/
inductive Origin where
  | header
  | implied
  | dotted
  deriving DecidableEq, Repr, Inhabited

inductive Item where
  | value (value : Setting)
  | table (origin : Origin) (entries : List (String × Item))
  | tables (closed : List Setting) (last : List (String × Item))
  deriving Inhabited

abbrev Entries := List (String × Item)

mutual

def Item.setting : Item → Setting
  | .value v => v
  | .table _ entries => .table (settings entries)
  | .tables closed last => .list (closed ++ [.table (settings last)])

def settings : List (String × Item) → List (String × Setting)
  | [] => []
  | (key, item) :: rest => (key, item.setting) :: settings rest

end

namespace Entries

def get? (es : Entries) (key : String) : Option Item :=
  match es with
  | [] => none
  | (k, item) :: rest => if k = key then some item else get? rest key

def put (es : Entries) (key : String) (item : Item) : Entries :=
  match es with
  | [] => [(key, item)]
  | (k, i) :: rest => if k = key then (key, item) :: rest else (k, i) :: put rest key item

/-- Gives a key its value. The tables of a dotted key are its own, or lead to one that is. -/
def assign (value : Setting) : List String → Entries → Option Entries
  | [], _ => none
  | [key], es => if (es.get? key).isSome then none else some (es.put key (.value value))
  | key :: next :: rest, es =>
    match es.get? key with
    | none => (assign value (next :: rest) []).map fun inner => es.put key (.table .dotted inner)
    | some (.table .dotted inner) =>
      (assign value (next :: rest) inner).map fun inner => es.put key (.table .dotted inner)
    | some (.table .implied inner) =>
      if rest.isEmpty then none
      else (assign value (next :: rest) inner).map fun inner => es.put key (.table .implied inner)
    | some (.tables closed last) =>
      if rest.isEmpty then none
      else (assign value (next :: rest) last).map fun last => es.put key (.tables closed last)
    | some _ => none

/-- Changes the table at a path, which goes through the last one of several tables. -/
def within (change : Entries → Option Entries) : List String → Entries → Option Entries
  | [], es => change es
  | key :: rest, es =>
    match es.get? key with
    | none => (within change rest []).map fun inner => es.put key (.table .implied inner)
    | some (.table origin inner) =>
      (within change rest inner).map fun inner => es.put key (.table origin inner)
    | some (.tables closed last) =>
      (within change rest last).map fun last => es.put key (.tables closed last)
    | some (.value _) => none

/-- Defines a table by its header. -/
def define (key : String) (es : Entries) : Option Entries :=
  match es.get? key with
  | none => some (es.put key (.table .header []))
  | some (.table .implied inner) => some (es.put key (.table .header inner))
  | some _ => none

def append (key : String) (es : Entries) : Option Entries :=
  match es.get? key with
  | none => some (es.put key (.tables [] []))
  | some (.tables closed last) =>
    some (es.put key (.tables (closed ++ [.table (settings last)]) []))
  | some _ => none

def ofPairs (pairs : List (List String × Setting)) : Option Setting :=
  (pairs.foldlM (fun es pair => assign pair.2 pair.1 es) []).map fun es => .table (settings es)

end Entries

end ModelForm.Toml

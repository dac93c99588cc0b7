/-
  PlotTypes.Toml.Value — TOML documents as values, and how statements build them.

  While a document is built, a table remembers how it came to be: by its own header, on
  the way to the table of another header, or by a dotted key. A header may open a table
  that only stood on the way; a dotted key may extend only tables of dotted keys. Values,
  inline tables among them, are never extended, and no key is set twice.
-/

namespace PlotTypes

/-- Of floats and dates it is only known that they are some. -/
inductive Toml where
  | string (s : String)
  | integer (n : Int)
  | float
  | boolean (b : Bool)
  | dateTime
  | array (items : List Toml)
  | table (entries : List (String × Toml))
  deriving Repr, Inhabited

namespace Toml

inductive Origin where
  | header
  | onTheWay
  | dotted
  deriving DecidableEq, Repr

inductive Item where
  | value (v : Toml)
  | table (origin : Origin) (entries : List (String × Item))
  /-- The tables of one repeated header, last one first. -/
  | tables (elements : List (List (String × Item)))
  deriving Repr, Inhabited

abbrev Entries := List (String × Item)

namespace Entries

def set (key : String) (item : Item) : Entries → Entries
  | [] => [(key, item)]
  | (k, old) :: r => if k = key then (key, item) :: r else (k, old) :: set key item r

/-- Changes the table at the end of `path` by `change`, which is told where the table
    comes from. Missing tables are made with the origin `made`. -/
def alter (made : Origin) (change : Origin → Entries → Option Entries) (origin : Origin) (es : Entries) :
    List String → Option Entries
  | [] => change origin es
  | key :: path =>
    match es.lookup key with
    | none => (alter made change made [] path).map fun inner => es.set key (.table made inner)
    | some (.table o inner) =>
      if made = .dotted ∧ o = .header then none
      else (alter made change o inner path).map fun inner => es.set key (.table o inner)
    | some (.tables (last :: earlier)) =>
      (alter made change .header last path).map fun last => es.set key (.tables (last :: earlier))
    | some (.tables []) => none
    | some (.value _) => none

/-- Sets the last key of a dotted key. A dotted key ends in a table of dotted keys, a
    single one does not. -/
def assign (path : List String) (key : String) (v : Toml) (origin : Origin) (es : Entries) : Option Entries :=
  let change (o : Origin) (inner : Entries) : Option Entries :=
    if (o == .dotted) == path.isEmpty then none
    else if (inner.lookup key).isSome then none
    else some (inner ++ [(key, .value v)])
  es.alter .dotted change origin path

/-- Opens the table of a header. -/
def openTable (path : List String) (key : String) (es : Entries) : Option Entries :=
  let change (_ : Origin) (inner : Entries) : Option Entries :=
    match inner.lookup key with
    | none => some (inner.set key (.table .header []))
    | some (.table .onTheWay entries) => some (inner.set key (.table .header entries))
    | some _ => none
  es.alter .onTheWay change .header path

/-- Opens the next table of a repeated header. -/
def openElement (path : List String) (key : String) (es : Entries) : Option Entries :=
  let change (_ : Origin) (inner : Entries) : Option Entries :=
    match inner.lookup key with
    | none => some (inner.set key (.tables [[]]))
    | some (.tables elements) => some (inner.set key (.tables ([] :: elements)))
    | some _ => none
  es.alter .onTheWay change .header path

end Entries

/-! ## Finished values -/

mutual

def ofItem : Item → Toml
  | .value v => v
  | .table _ entries => .table (ofEntries entries)
  | .tables elements => .array (ofElements elements).reverse

def ofEntries : List (String × Item) → List (String × Toml)
  | [] => []
  | (key, item) :: r => (key, ofItem item) :: ofEntries r

def ofElements : List (List (String × Item)) → List Toml
  | [] => []
  | entries :: r => .table (ofEntries entries) :: ofElements r

end

/-! ## Views -/

def string? : Toml → Option String
  | .string s => some s
  | _ => none

def integer? : Toml → Option Int
  | .integer n => some n
  | _ => none

def items? : Toml → Option (List Toml)
  | .array items => some items
  | _ => none

end Toml

end PlotTypes

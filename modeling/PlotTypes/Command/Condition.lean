/-
  PlotTypes.Command.Condition — conditions on texts, integers and files.

  Up to four words are read by their number, more by their signs: `!` before `-a` before
  `-o`, with parentheses. A sign counts as a text where an operator does not fit.
-/

import PlotTypes.Command.Number

namespace PlotTypes.Command.Condition

inductive Sign where
  | unary (c : Char)
  | compare (s : String)
  | not
  | and
  | or
  | left
  | right
  deriving DecidableEq, Repr

def unaryLetters : List Char := "rwxefdcbpugkstznhLSOG".toList

def comparisons : List String :=
  ["=", "!=", "<", ">", "-eq", "-ne", "-ge", "-gt", "-le", "-lt", "-nt", "-ot", "-ef"]

def sign? (s : Bytes) : Option Sign :=
  match s with
  | ['!'] => some .not
  | ['('] => some .left
  | [')'] => some .right
  | ['-', 'a'] => some .and
  | ['-', 'o'] => some .or
  | ['-', c] => if unaryLetters.contains c then some (.unary c) else none
  | s => (comparisons.find? (·.toList == s)).map .compare

/-- What a condition is asked about the world. -/
structure Questions where
  /-- A property of a file, by its letter. -/
  file : Char → Bytes → Bool
  /-- One file is newer than another one, and both are the same file. -/
  isNewer : Bytes → Bytes → Bool
  isSame : Bytes → Bytes → Bool
  terminal : Int → Bool

/-- The words, from the first one that is not read yet; the ones before it are needed no
    more. A fault is a message. -/
abbrev Reading := EStateM Bytes (List Bytes)

def isCompare (s : Option Bytes) : Bool :=
  match s.bind sign? with
  | some (.compare _) => true
  | _ => false

/-- The sign at the start of some words, unless it stands there as a text. -/
def signOf (ws : List Bytes) : Option Sign :=
  match ws with
  | [] => none
  | w :: r =>
    match sign? w with
    | some (.unary c) =>
      let isText := match r with
        | [] => true
        | [_] => false
        | s :: _ => isCompare (some s)
      if isText then none else some (.unary c)
    | some .left => if r.isEmpty then none else some .left
    | s => s

def number (s : Bytes) : Reading Int :=
  match integer? (some 10) s with
  | some i => return i
  | none => throw ("Illegal number: ".toList ++ s)

def syntaxFault (s : Bytes) (message : String) : Reading α :=
  throw ((if s.isEmpty then [] else s ++ ": ".toList) ++ message.toList)

def compareBytes (a b : Bytes) : Ordering := compare (a.map Char.toNat) (b.map Char.toNat)

/-- Two operands with a sign between them; the second one stays the current word. -/
def comparison (q : Questions) : Reading Bool := do
  match ← get with
  | a :: op :: b :: r =>
    set (b :: r)
    let numbers (test : Int → Int → Bool) : Reading Bool := do
      let x ← number a
      return test x (← number b)
    match String.ofList op with
    | "=" => return a == b
    | "!=" => return a != b
    | "<" => return compareBytes a b == .lt
    | ">" => return compareBytes a b == .gt
    | "-eq" => numbers fun x y => x == y
    | "-ne" => numbers fun x y => x != y
    | "-ge" => numbers fun x y => y ≤ x
    | "-gt" => numbers fun x y => y < x
    | "-le" => numbers fun x y => x ≤ y
    | "-lt" => numbers fun x y => x < y
    | "-nt" => return q.isNewer a b
    | "-ot" => return q.isNewer b a
    | _ => return q.isSame a b
  | _ :: op :: _ => syntaxFault op "argument expected"
  | _ => return false

/-- Makes the next word the current one. -/
def advance : Reading Unit := modify (·.drop 1)

/-- The sign of the word after the current one. -/
def following : Reading (Option Sign) := do return signOf ((← get).drop 1)

/-- A condition from the current word, which has a sign or is a text. Afterwards the
    current word is its last one. -/
inductive Goal where
  | or
  | and
  | not
  deriving DecidableEq, Repr

abbrev Rules := Goal → Reading Bool

def primary (q : Questions) (rules : Rules) : Reading Bool := do
  let ws ← get
  match signOf ws, ws with
  | _, [] => return false
  | some .left, _ =>
    advance
    if signOf (← get) == some .right then return false
    let b ← rules .or
    advance
    if signOf (← get) != some .right then syntaxFault [] "closing paren expected"
    return b
  | some (.unary c), op :: _ =>
    advance
    match ← get with
    | [] => syntaxFault op "argument expected"
    | a :: _ =>
      match c with
      | 'z' => return a.isEmpty
      | 'n' => return !a.isEmpty
      | 't' => return q.terminal (← number a)
      | c => return q.file c a
  | _, w :: _ =>
    if let some (.compare _) := ← following then comparison q else return !w.isEmpty

/-- A condition that must hold, joined with others by a sign. -/
def joined (rules : Rules) (goal : Goal) (sign : Sign) (op : Bool → Bool → Bool) : Nat → Bool → Reading Bool
  | 0, b => return b
  | n + 1, b => do
    let b := op b (← rules goal)
    if (← following) != some sign then return b
    advance
    advance
    joined rules goal sign op n b

def within (q : Questions) : Nat → Rules
  | 0, _ => return false
  | n + 1, .or => do joined (within q n) .and .or (· || ·) ((← get).length + 1) false
  | n + 1, .and => do joined (within q n) .not .and (· && ·) ((← get).length + 1) true
  | n + 1, .not => do
    if signOf (← get) != some .not then primary q (within q n)
    else
      if (← get).length > 1 then advance else set ([] : List Bytes)
      return !(← within q n .not)

/-- Whether the words as a whole are a condition that holds. -/
def judge (q : Questions) (ws : List Bytes) : Reading Bool := do
  set ws
  let depth := 3 * ws.length + 5
  let b ← match ws with
    | [_, op, _] => if isCompare (some op) then comparison q else within q depth .or
    | _ => within q depth .or
  match ← get with
  | w :: _ :: _ => syntaxFault w "unexpected operator"
  | _ => return b

/-- The words without parentheses around all of them, and how often their meaning turns. -/
def unwrapped (ws : List Bytes) : Nat → List Bytes × Bool
  | 0 => (ws, false)
  | n + 1 =>
    let isShort := ws.length == 3 || ws.length == 4
    if ws.length == 3 && isCompare ws[1]? then (ws, false)
    else if isShort && ws.head? == some ['('] && ws.getLast? == some [')'] then ((ws.drop 1).dropLast, false)
    else if isShort && ws.head? == some ['!'] then
      let (rest, turned) := unwrapped (ws.drop 1) n
      (rest, !turned)
    else (ws, false)

/-- The value of a condition, or a message. No words at all are false. -/
def evaluate (q : Questions) (ws : List Bytes) : Except Bytes Bool :=
  let (rest, turned) := unwrapped ws 4
  if rest.isEmpty then .ok turned
  else
    match (judge q rest).run rest with
    | .ok b _ => .ok (b != turned)
    | .error e _ => .error e

end PlotTypes.Command.Condition

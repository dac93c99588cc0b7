/-
  PlotTypes.Command.Sum — sums: arithmetic in scripts.

  Operators bind as in other languages with them, and assignments are values. What is not
  chosen is read but not worked out. Each rule reads ahead by one token.
-/

import PlotTypes.Command.Machine
import PlotTypes.Command.Number

namespace PlotTypes.Command

inductive BinaryOp where
  | times
  | over
  | rest
  | plus
  | minus
  | left
  | right
  | less
  | lessEq
  | greater
  | greaterEq
  | eq
  | ne
  | and
  | xor
  | or
  deriving DecidableEq, Repr

/-- Lower ones bind more tightly. -/
def BinaryOp.rank : BinaryOp → Nat
  | .times | .over | .rest => 0
  | .plus | .minus => 1
  | .left | .right => 2
  | .less | .lessEq | .greater | .greaterEq => 3
  | .eq | .ne => 4
  | .and => 5
  | .xor => 6
  | .or => 7

inductive SumToken where
  | number (i : Int)
  | name (s : String)
  | binary (op : BinaryOp)
  | assign (op : Option BinaryOp)
  | both
  | either
  | not
  | flip
  | question
  | colon
  | open_
  | close
  | bad
  | eof
  deriving DecidableEq, Repr

/-! ## Tokens -/

/-- Signs, longer ones before their beginnings. -/
def sumSigns : List (String × SumToken) :=
  [("<<=", .assign (some .left)), (">>=", .assign (some .right)), ("<<", .binary .left), (">>", .binary .right),
    ("<=", .binary .lessEq), (">=", .binary .greaterEq), ("==", .binary .eq), ("!=", .binary .ne), ("&&", .both),
    ("||", .either), ("*=", .assign (some .times)), ("/=", .assign (some .over)), ("%=", .assign (some .rest)),
    ("+=", .assign (some .plus)), ("-=", .assign (some .minus)), ("&=", .assign (some .and)),
    ("^=", .assign (some .xor)), ("|=", .assign (some .or)), ("<", .binary .less), (">", .binary .greater),
    ("*", .binary .times), ("/", .binary .over), ("%", .binary .rest), ("+", .binary .plus), ("-", .binary .minus),
    ("&", .binary .and), ("^", .binary .xor), ("|", .binary .or), ("=", .assign none), ("!", .not), ("~", .flip),
    ("?", .question), (":", .colon), ("(", .open_), (")", .close)]

def clamped (n : Nat) : Int := if (n : Int) ≤ maxInteger then n else maxInteger

/-- The token at the start of a text, and the rest. -/
def sumToken (cs : Bytes) : SumToken × Bytes :=
  let cs := cs.dropWhile fun c => c == ' ' || c == '\t' || c == '\n'
  match cs with
  | [] => (.eof, [])
  | c :: _ =>
    if c.isDigit then
      match readBased cs with
      | some (n, rest) => (.number (clamped n), rest)
      | none => (.bad, cs)
    else if startsName c then
      let name := cs.takeWhile isInName
      (.name (String.ofList name), cs.drop name.length)
    else
      match sumSigns.find? fun (sign, _) => sign.toList.isPrefixOf cs with
      | some (sign, t) => (t, cs.drop sign.length)
      | none => (.bad, cs)

structure SumState where
  whole : Bytes
  left : Bytes
  /-- The token after what was worked out last. -/
  last : SumToken

abbrev SumRun := StateT SumState Run

def sumNext : SumRun SumToken := do
  let st ← get
  let (t, left) := sumToken st.left
  set { st with left }
  return t

def setLast (t : SumToken) : SumRun Unit := modify ({ · with last := t })

def sumFail (reason : String) : SumRun α := do
  let whole := (← get).whole
  liftM (fail (α := α) ("arithmetic expression: ".toList ++ reason.toList ++ ": \"".toList ++ whole ++ ['"']))

/-! ## Values -/

def truth (b : Bool) : Int := if b then 1 else 0

/-- The number that a variable holds. -/
def numberOf (name : String) : Run Int := do
  let value := ((← shell).value? name).getD []
  match integer? none value with
  | some i => return i
  | none => fail ("Illegal number: ".toList ++ value)

def bits (i : Int) : BitVec 64 := BitVec.ofInt 64 i

def applyOp (op : BinaryOp) (a b : Int) : SumRun Int := do
  match op with
  | .times => return wrapped (a * b)
  | .over =>
    if b = 0 then sumFail "division by zero"
    if a = minInteger && b = -1 then throw (.killed 8)
    return a.tdiv b
  | .rest =>
    if b = 0 then sumFail "division by zero"
    if a = minInteger && b = -1 then throw (.killed 8)
    return a.tmod b
  | .plus => return wrapped (a + b)
  | .minus => return wrapped (a - b)
  | .left => return ((bits a) <<< (b % 64).toNat).toInt
  | .right => return (bits a).sshiftRight (b % 64).toNat |>.toInt
  | .less => return truth (a < b)
  | .lessEq => return truth (a ≤ b)
  | .greater => return truth (b < a)
  | .greaterEq => return truth (b ≤ a)
  | .eq => return truth (a = b)
  | .ne => return truth (a ≠ b)
  | .and => return (bits a &&& bits b).toInt
  | .xor => return (bits a ^^^ bits b).toInt
  | .or => return (bits a ||| bits b).toInt

/-! ## Rules -/

/-- What a rule works out; `quiet` parts are only read. The tokens that a rule begins with
    are read already: the first, and where it is there the one after it. -/
inductive SumGoal where
  | assignment (first : SumToken) (quiet : Bool)
  | choice (first second : SumToken) (quiet : Bool)
  | either (first second : SumToken) (quiet : Bool)
  | both (first second : SumToken) (quiet : Bool)
  | primary (first second : SumToken) (quiet : Bool)
  /-- What follows a value and its operator, as long as it binds more tightly than `rank`. -/
  | chain (a : Int) (op : BinaryOp) (rank : Nat) (quiet : Bool)

abbrev SumRules := SumGoal → SumRun Int

namespace SumRules

def primary (rules : SumRules) (first second : SumToken) (quiet : Bool) : SumRun Int := do
  match first with
  | .open_ =>
    let a ← rules (.assignment second quiet)
    if (← get).last != .close then sumFail "expecting ')'"
    setLast (← sumNext)
    return a
  | .number i =>
    setLast second
    return i
  | .name s =>
    setLast second
    if quiet then return 0
    liftM (numberOf s)
  | .binary .plus => rules (.primary second (← sumNext) quiet)
  | .binary .minus => return wrapped (-(← rules (.primary second (← sumNext) quiet)))
  | .not => return truth ((← rules (.primary second (← sumNext) quiet)) = 0)
  | .flip => return -(← rules (.primary second (← sumNext) quiet)) - 1
  | _ => sumFail "expecting primary"

def chain (rules : SumRules) (a : Int) (op : BinaryOp) (rank : Nat) (quiet : Bool) : SumRun Int := do
  let first ← sumNext
  let b ← rules (.primary first (← sumNext) quiet)
  let b ← match (← get).last with
    | .binary next => if next.rank < op.rank then rules (.chain b next op.rank quiet) else pure b
    | _ => pure b
  let a ← if quiet then pure b else applyOp op a b
  match (← get).last with
  | .binary next => if next.rank < rank then rules (.chain a next rank quiet) else return a
  | _ => return a

def binary (rules : SumRules) (first second : SumToken) (quiet : Bool) : SumRun Int := do
  let a ← rules (.primary first second quiet)
  match (← get).last with
  | .binary op => rules (.chain a op 8 quiet)
  | _ => return a

def both (rules : SumRules) (first second : SumToken) (quiet : Bool) : SumRun Int := do
  let a ← rules.binary first second quiet
  if (← get).last != .both then return a
  let first ← sumNext
  let b ← rules (.both first (← sumNext) (quiet || a = 0))
  return truth (a ≠ 0 && b ≠ 0)

def either (rules : SumRules) (first second : SumToken) (quiet : Bool) : SumRun Int := do
  let a ← rules (.both first second quiet)
  if (← get).last != .either then return a
  let first ← sumNext
  let b ← rules (.either first (← sumNext) (quiet || a ≠ 0))
  return truth (a ≠ 0 || b ≠ 0)

def choice (rules : SumRules) (first second : SumToken) (quiet : Bool) : SumRun Int := do
  let a ← rules (.either first second quiet)
  if (← get).last != .question then return a
  let b ← rules (.assignment (← sumNext) (quiet || a = 0))
  if (← get).last != .colon then sumFail "expecting ':'"
  let first ← sumNext
  let c ← rules (.choice first (← sumNext) (quiet || a ≠ 0))
  return if a ≠ 0 then b else c

def assignment (rules : SumRules) (first : SumToken) (quiet : Bool) : SumRun Int := do
  let second ← sumNext
  match first, second with
  | .name s, .assign op =>
    let b ← rules (.assignment (← sumNext) quiet)
    if quiet then return b
    let value ← match op with
      | none => pure b
      | some op => applyOp op (← liftM (numberOf s)) b
    liftM (assign s (integerText value) false)
    return value
  | first, second => rules (.choice first second quiet)

/-- The rules, going at most so deep. -/
def within : Nat → SumRules
  | 0, _ => sumFail "expecting primary"
  | n + 1, .assignment first quiet => assignment (within n) first quiet
  | n + 1, .choice first second quiet => choice (within n) first second quiet
  | n + 1, .either first second quiet => either (within n) first second quiet
  | n + 1, .both first second quiet => both (within n) first second quiet
  | n + 1, .primary first second quiet => primary (within n) first second quiet
  | n + 1, .chain a op rank quiet => chain (within n) a op rank quiet

end SumRules

/-- The value of a sum. -/
def sumOf (text : Bytes) : Run Int := do
  let work : SumRun Int := do
    let first ← sumNext
    let value ← SumRules.within (6 * text.length + 20) (.assignment first false)
    if (← get).last != .eof then sumFail "expecting EOF"
    return value
  return (← work.run ⟨text, text, .eof⟩).1

end PlotTypes.Command

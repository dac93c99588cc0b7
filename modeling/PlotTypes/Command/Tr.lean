/-
  PlotTypes.Command.Tr — the program that translates, deletes and squeezes characters.

  A set of characters is written as a row of constructs: characters, ranges, classes,
  equivalents and repetitions. The two sets are matched element by element; the second
  is extended with its last character, and letters change their case where classes of
  both cases face each other.
-/

import PlotTypes.Command.Program

namespace PlotTypes.Command.Tr

def fault (message : Bytes) : Bytes := "tr: ".toList ++ message ++ ['\n']

/-! ## Sets -/

inductive Construct where
  | char (c : Char)
  | range (first last : Char)
  | class_ (name : String)
  | equal (c : Char)
  /-- Without a number as often as it takes. -/
  | repeated (c : Char) (times : Option Nat)
  deriving DecidableEq, Repr

/-- A character of an operand, and whether a backslash stood before it. -/
structure Mark where
  char : Char
  isEscaped : Bool
  deriving DecidableEq, Repr

def isOctal (c : Char) : Bool := '0' ≤ c && c ≤ '7'

def octalValue (cs : Bytes) : Nat := cs.foldl (fun n c => n * 8 + (c.toNat - '0'.toNat)) 0

/-- The characters that escapes in an operand stand for, and warnings about them. -/
def unescape : Nat → Bytes → List Mark × Bytes
  | 0, _ | _, [] => ([], [])
  | n + 1, '\\' :: r =>
    match r with
    | [] =>
      ([⟨'\\', false⟩], fault "warning: an unescaped backslash at end of string is not portable".toList)
    | c :: rest =>
      if isOctal c then
        let three := (r.take 3).takeWhile isOctal
        let fits := octalValue three < 256
        let used := if fits then three else three.take 2
        let d := three.getLastD '0'
        let warning := if fits then [] else
          fault ("warning: the ambiguous octal escape \\".toList ++ three ++ " is being\n\tinterpreted as the ".toList ++
            "2-byte sequence \\0".toList ++ used ++ ", ".toList ++ [d])
        let (marks, warnings) := unescape n (r.drop used.length)
        (⟨Char.ofNat (octalValue used), true⟩ :: marks, warning ++ warnings)
      else
        let letter := [('a', '\x07'), ('b', '\x08'), ('f', '\x0c'), ('n', '\n'), ('r', '\r'), ('t', '\t'), ('v', '\x0b')]
        let (marks, warnings) := unescape n rest
        (⟨(letter.lookup c).getD c, true⟩ :: marks, warnings)
  | n + 1, c :: r =>
    let (marks, warnings) := unescape n r
    (⟨c, false⟩ :: marks, warnings)

def is (c : Char) (m : Mark) : Bool := m.char == c && !m.isEscaped

def printable (s : List Mark) : Bytes := s.flatMap fun m => if isPrinted m.char then [m.char] else octalEscape m.char

/-- What stands before a closing sign, a bracket after it, and what follows both. -/
def upTo (sign : Char) : List Mark → Option (List Mark × List Mark)
  | a :: b :: r =>
    if is sign a && is ']' b then some ([], r)
    else (upTo sign (b :: r)).map fun (inside, rest) => (a :: inside, rest)
  | _ => none

/-- A repetition from after its bracket: none if there is no such construct. -/
def repetition? : List Mark → Except Bytes (Option (Construct × List Mark))
  | c :: star :: r =>
    if !is '*' star then .ok none
    else
      let inside := r.takeWhile fun m => m.char != ']' && !m.isEscaped
      match r.drop inside.length with
      | ⟨']', false⟩ :: rest =>
        let digits := inside.map (·.char)
        let base := if digits.head? == some '0' then 8 else 10
        if digits.isEmpty then .ok (some (.repeated c.char none, rest))
        else
          match readDigits base digits with
          | some (n, []) =>
            if n < Nat.pow 2 63 then .ok (some (.repeated c.char (if n = 0 then none else some n), rest))
            else .error (fault ("invalid repeat count ".toList ++ quotedText (printable inside) ++ " in [c*n] construct".toList))
          | _ =>
            .error (fault ("invalid repeat count ".toList ++ quotedText (printable inside) ++ " in [c*n] construct".toList))
      | _ => .ok none
  | _ => .ok none

/-- A star with digits and a bracket: what looks like a class may be a repetition. -/
def looksRepeated : List Mark → Bool
  | star :: r => is '*' star && (r.dropWhile fun m => m.char.isDigit && !m.isEscaped).head?.any (is ']')
  | [] => false

/-- A construct in brackets, from after the opening one. -/
def bracketed? (r : List Mark) : Except Bytes (Option (Construct × List Mark)) := do
  match r with
  | sign :: inside =>
    if is ':' sign || is '=' sign then
      match upTo sign.char inside with
      | none => repetition? r
      | some (name, rest) =>
        if sign.char == ':' then
          if name.isEmpty then .error (fault "missing character class name '[::]'".toList)
          else if Pattern.classes.any fun (n, _) => n.toList == name.map (·.char) then
            return some (.class_ (String.ofList (name.map (·.char))), rest)
          else if looksRepeated inside then repetition? r
          else .error (fault ("invalid character class ".toList ++ quotedText (printable name)))
        else
          match name with
          | [] => .error (fault "missing equivalence class character '[==]'".toList)
          | [c] => return some (.equal c.char, rest)
          | name =>
            if looksRepeated inside then repetition? r
            else .error (fault (printable name ++ ": equivalence class operand must be a single character".toList))
    else repetition? r
  | [] => return none

/-- The constructs of an operand; the last two characters stand for themselves. -/
def constructs : Nat → List Mark → Except Bytes (List Construct)
  | 0, _ => .ok []
  | n + 1, a :: b :: c :: r => do
    if let some (found, rest) ← if is '[' a then bracketed? (b :: c :: r) else .ok none then
      return found :: (← constructs n rest)
    if is '-' b then
      if c.char < a.char then
        .error (fault ("range-endpoints of '".toList ++ printable [a] ++ ['-'] ++ printable [c] ++
          "' are in reverse collating sequence order".toList))
      else return .range a.char c.char :: (← constructs n r)
    else return .char a.char :: (← constructs n (b :: c :: r))
  | _, rest => .ok (rest.map fun m => .char m.char)

def readSet (s : Bytes) : Except Bytes (List Construct) × Bytes :=
  let (marks, warnings) := unescape (s.length + 1) s
  (constructs (s.length + 1) marks, warnings)

/-! ## Elements -/

def allBytes : List Char := (List.range 256).map Char.ofNat

def classTest (name : String) : Char → Bool := (Pattern.classes.lookup name).getD fun _ => false

/-- More of one character changes nothing. -/
def mostRepeats : Nat := 100000

def Construct.chars : Construct → List Char
  | .char c | .equal c => [c]
  | .range first last => ((List.range 256).map Char.ofNat).filter fun c => first ≤ c && c ≤ last
  | .class_ name => allBytes.filter (classTest name)
  | .repeated c times => List.replicate (min (times.getD 0) mostRepeats) c

def Construct.length : Construct → Nat
  | .repeated _ times => times.getD 0
  | c => c.chars.length

def lengthOf (s : List Construct) : Nat := (s.map (·.length)).foldr (· + ·) 0

def charsOf (s : List Construct) : List Char := s.flatMap (·.chars)

def isIndefinite : Construct → Bool
  | .repeated _ none => true
  | _ => false

def isClass : Construct → Bool
  | .class_ _ => true
  | _ => false

/-- A class of letters of one case, which may change into the other one. -/
def caseClass? : Construct → Option String
  | .class_ "upper" => some "upper"
  | .class_ "lower" => some "lower"
  | _ => none

/-- A set that is read element by element: the constructs left, each with its characters. -/
structure Cursor where
  left : List (Option String × List Char)
  /-- The next element begins a construct. -/
  isFresh : Bool

def Cursor.start (s : List Construct) : Cursor := ⟨s.map fun c => (caseClass? c, c.chars), true⟩

def nextOf : List (Option String × List Char) → Option (Char × Option String) × Cursor
  | [] => (none, ⟨[], true⟩)
  | (_, []) :: r => nextOf r
  | (case?, [c]) :: r => (some (c, case?), ⟨r, true⟩)
  | (case?, c :: cs) :: r => (some (c, case?), ⟨(case?, cs) :: r, false⟩)

def Cursor.next (c : Cursor) : Option (Char × Option String) × Cursor := nextOf c.left

/-- The cursor after the construct that it is in. -/
def Cursor.skip (c : Cursor) : Cursor := if c.isFresh then c else ⟨c.left.drop 1, true⟩

/-! ## Checks -/

structure Task where
  complements : Bool
  deletes : Bool
  squeezes : Bool
  truncates : Bool

/-- Classes of letters in the second set face those of the first; `discount` is what they
    add to the lengths beyond one element. -/
def checkCases : Nat → Cursor → Cursor → Nat → Nat → Except Bytes (Nat × Nat)
  | 0, _, _, first, second => .ok (first, second)
  | n + 1, a, b, first, second =>
    let (x, a') := a.next
    let (y, b') := b.next
    match x, y with
    | some (_, caseA), some (_, some _) =>
      if b.isFresh && !(a.isFresh && caseA.isSome) then
        .error (fault "misaligned [:upper:] and/or [:lower:] construct".toList)
      else checkCases n a'.skip b'.skip (first - 25) (second - 25)
    | some _, some _ => checkCases n a' b' first second
    | none, some (_, some _) =>
      if b.isFresh then .error (fault "misaligned [:upper:] and/or [:lower:] construct".toList) else .ok (first, second)
    | _, _ => .ok (first, second)

/-- The second set as long as the first. -/
def extended (second : List Construct) (missing : Nat) : Except Bytes (List Construct) :=
  match second.getLast? with
  | some (.class_ _) =>
    .error (fault ("when translating with string1 longer than string2,\nthe latter string must not end with a ".toList ++
      "character class".toList))
  | some (.range _ c) | some (.char c) | some (.equal c) | some (.repeated c _) =>
    .ok (second ++ [.repeated c (some missing)])
  | none => .error (fault "when not truncating set1, string2 must be non-empty".toList)

/-- What the second set is when it is used with the first. -/
def checkedSecond (t : Task) (isTranslating : Bool) (first second : List Construct) : Except Bytes (List Construct) := do
  let length1 := if t.complements then 256 - (charsOf first).eraseDups.length else lengthOf first
  let filled := second.map fun c =>
    match c with
    | .repeated d none => .repeated d (some (length1 - lengthOf second))
    | c => c
  let indefinite := (second.filter isIndefinite).length
  let second' := if indefinite == 1 && lengthOf second ≤ length1 then filled else second
  if indefinite > 1 then .error (fault "only one [c*] repeat construct may appear in string2".toList)
  if !isTranslating then
    if indefinite > 0 then .error (fault "the [c*] construct may appear in string2 only when translating".toList)
    return second'
  if second.any fun | .equal _ => true | _ => false then
    .error (fault "[=c=] expressions may not appear in string2 when translating".toList)
  if second.any fun c => isClass c && (caseClass? c).isNone then
    .error (fault ("when translating, the only character classes that may appear in\nstring2 are ".toList ++
      "'upper' and 'lower'".toList))
  let (a, b) ←
    if t.complements || !second.any isClass then .ok (length1, lengthOf second')
    else checkCases (lengthOf first + 1) (.start first) (.start second') length1 (lengthOf second')
  let second' ←
    if b < a && !t.truncates then
      if b = 0 then .error (fault "when not truncating set1, string2 must be non-empty".toList)
      else extended second' (a - b)
    else .ok second'
  let isOne := match charsOf second' with
    | [] => true
    | c :: r => r.all (· == c)
  if t.complements && first.any isClass && !((if t.truncates then b else max a b) == a && isOne) then
    .error (fault ("when translating with complemented character classes,\nstring2 must map all characters in the ".toList ++
      "domain to one".toList))
  return second'

/-! ## Work -/

/-- What each byte becomes. -/
abbrev Mapping := Array Char

def Mapping.at (m : Mapping) (c : Char) : Char := m.getD c.toNat c

def identity : Mapping := allBytes.toArray

def swapCase (m : Mapping) (fromClass : String) (f : Char → Char) : Mapping :=
  allBytes.foldl (fun m c => if classTest fromClass c then m.set! c.toNat (f c) else m) m

def facing : Nat → Cursor → Cursor → Mapping → Mapping
  | 0, _, _, m => m
  | n + 1, a, b, m =>
    let (x, a') := a.next
    let (y, b') := b.next
    match x, y with
    | some (c, caseA), some (d, caseB) =>
      let m :=
        if caseA == some "lower" && caseB == some "upper" then swapCase m "lower" Char.toUpper
        else if caseA == some "upper" && caseB == some "lower" then swapCase m "upper" Char.toLower
        else m.set! c.toNat d
      if caseB.isSome then facing n a'.skip b'.skip m else facing n a' b' m
    | _, _ => m

def mappingOf (t : Task) (first second : List Construct) : Mapping :=
  if t.complements then
    let outside := allBytes.filter fun c => !(charsOf first).contains c
    (outside.zip (charsOf second)).foldl (fun m (c, d) => m.set! c.toNat d) identity
  else facing (min (lengthOf first) (2 * mostRepeats) + 1) (.start first) (.start second) identity

/-- The bytes that a set holds. -/
def memberTable (chars : List Char) (complemented : Bool) : Array Bool :=
  chars.foldl (fun a c => a.set! c.toNat !complemented) (Array.replicate 256 complemented)

def isIn (set : Array Bool) (c : Char) : Bool := set.getD c.toNat false

/-- One of each run of a character of the set; `done` has the last one first. -/
def squeezed (set : Array Bool) (done : Bytes) : Bytes → Bytes
  | [] => done.reverse
  | c :: r => if done.head? == some c && isIn set c then squeezed set done r else squeezed set (c :: done) r

def work (t : Task) (first : List Construct) (second : Option (List Construct)) (s : Bytes) : Bytes :=
  let firstSet := memberTable (charsOf first) t.complements
  match second with
  | none => if t.deletes then s.filter fun c => !isIn firstSet c else squeezed firstSet [] s
  | some second =>
    let kept := if t.deletes then s.filter fun c => !isIn firstSet c else s.map (mappingOf t first second).at
    if t.squeezes then squeezed (memberTable (charsOf second) false) [] kept else kept

/-! ## The program -/

def table : OptionTable where
  program := "tr"
  short := "AcCdst".toList
  long := [("complement", false, 'c'), ("delete", false, 'd'), ("squeeze-repeats", false, 's'),
    ("truncate-set1", false, 't')] ++ finalOptions
  inFront := true
  valueFault? _ _ := none

def operandFault? (t : Task) (operands : List Bytes) : Option Bytes :=
  let fewest := if t.deletes == t.squeezes then 2 else 1
  let most := if t.deletes && !t.squeezes then 1 else 2
  let help := (hint "tr").toList
  match operands.getLast?, operands[most]? with
  | none, _ => some (fault "missing operand".toList ++ help)
  | some last, extra? =>
    if operands.length < fewest then
      some (fault ("missing operand after ".toList ++ quotedText last) ++
        (if t.squeezes then "Two strings must be given when both deleting and squeezing repeats.\n"
        else "Two strings must be given when translating.\n").toList ++ help)
    else
      extra?.map fun extra =>
        fault ("extra operand ".toList ++ quotedText extra) ++
          (if operands.length == 2 then "Only one string may be given when deleting without squeezing repeats.\n"
          else "").toList ++ help

/-- The sets of the operands, with warnings, or a message. -/
def readSets (t : Task) (operands : List Bytes) : Except Bytes (List Construct × Option (List Construct)) × Bytes :=
  let (first, warnings) := readSet (operands.headD [])
  match first with
  | .error e => (.error e, warnings)
  | .ok first =>
    let bare := fault "the [c*] repeat construct may not appear in string1".toList
    match operands.drop 1 with
    | [] => (if first.any isIndefinite then .error bare else .ok (first, none), warnings)
    | s :: _ =>
      let (second, more) := readSet s
      let checked := do
        let second ← second
        if first.any isIndefinite then .error bare
        return (first, some (← checkedSecond t (!t.deletes) first second))
      (checked, warnings ++ more)

def run (o : Options) (g : Given) : Result :=
  let t : Task := ⟨o.has 'c' || o.has 'C', o.has 'd', o.has 's', o.has 't'⟩
  let stopped (message : Bytes) : Result := ⟨[(false, message)], 1, g.input.pending⟩
  match operandFault? t o.operands with
  | some message => stopped message
  | none =>
    let (sets, warnings) := readSets t o.operands
    match sets, g.input.fault? with
    | .error message, _ => stopped (warnings ++ message)
    | .ok _, some reason => stopped (warnings ++ fault ("read error: ".toList ++ reason.toList))
    | .ok (first, second), none => ⟨[(false, warnings), (true, work t first second g.input.pending)], 0, []⟩

def program : Program := withOptions table run

end PlotTypes.Command.Tr

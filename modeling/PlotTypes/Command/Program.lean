/-
  PlotTypes.Command.Program — what the programs that commands run have in common.

  A program gets its arguments, the bytes at its input and a way to read files. It answers
  what it writes, in order, its status, and what it leaves of the input. Options stand
  anywhere before a double hyphen, or only in front; a long one may be cut short as far
  as it stays clear.
-/

import PlotTypes.Command.Number
import PlotTypes.Text.Pieces

namespace PlotTypes.Command

/-- What a program finds at its input. -/
inductive Input where
  | closed
  | unreadable (reason : String)
  /-- Bytes, and the length of the file that they are in. -/
  | bytes (s : Bytes) (length : Option Nat)
  deriving DecidableEq, Repr

def badDescriptor : String := "Bad file descriptor"

def noSuchFile : String := "No such file or directory"

def isDirectory : String := "Is a directory"

def Input.pending : Input → Bytes
  | .bytes s _ => s
  | _ => []

/-- Why the input cannot be read. -/
def Input.fault? : Input → Option String
  | .closed => some badDescriptor
  | .unreadable reason => some reason
  | .bytes .. => none

structure Given where
  args : List Bytes
  input : Input
  /-- What is in a file and whether it has a length, or why it cannot be read. -/
  file : Bytes → Except String (Bytes × Bool)

structure Result where
  /-- To the output, or else to the errors. -/
  written : List (Bool × Bytes)
  status : Nat
  /-- The input that was not read. -/
  rest : Bytes
  deriving DecidableEq, Repr

abbrev Program := Given → Result

/-! ## Quoting names -/

def isPrinted (c : Char) : Bool := 32 ≤ c.toNat && c.toNat < 127

/-- The letter that stands for a control character. -/
def escapeLetter? (c : Char) : Option Char :=
  [('\x07', 'a'), ('\x08', 'b'), ('\x0c', 'f'), ('\n', 'n'), ('\r', 'r'), ('\t', 't'), ('\x0b', 'v')].lookup c

def octalEscape (c : Char) : Bytes :=
  let n := c.toNat
  '\\' :: [n / 64, n / 8 % 8, n % 8].map fun d => Char.ofNat ('0'.toNat + d)

def escapeOf (c : Char) : Bytes :=
  match escapeLetter? c with
  | some l => ['\\', l]
  | none => octalEscape c

/-- Characters that keep a name from standing as it is, first or anywhere. -/
def needsQuotes (s : Bytes) : Bool :=
  match s with
  | [] => true
  | c :: _ =>
    s == ['{'] || s == ['}'] || c == '#' || c == '~' ||
      s.any fun c => !isPrinted c || " !\"$&()*;<=>[^\x60|'\\?:".toList.contains c

/-- A name in single quotes, where what cannot be printed is escaped outside of them. -/
def singleQuoted (inEscape : Bool) : Bytes → Bytes
  | [] => ['\'']
  | c :: r =>
    if !isPrinted c then
      (if inEscape then [] else "'$'".toList) ++ escapeOf c ++ singleQuoted true r
    else
      let back : Bytes := if inEscape then "''".toList else []
      back ++ (if c == '\'' then "'\\''".toList else [c]) ++ singleQuoted false r

/-- How a name is written in a message. -/
def quotedName (s : Bytes) : Bytes :=
  if !needsQuotes s then s
  else if s.contains '\'' && s.all fun c => isPrinted c && !"!\"$&()*;<=>[^\x60|\\?".toList.contains c then
    '"' :: s ++ ['"']
  else '\'' :: singleQuoted false s

/-- How a text is written in a message. -/
def quotedText (s : Bytes) : Bytes :=
  let inside := s.flatMap fun c =>
    if c == '\'' || c == '\\' then ['\\', c] else if isPrinted c then [c] else escapeOf c
  '\'' :: inside ++ ['\'']

/-! ## Options -/

structure OptionTable where
  program : String
  /-- The letters. -/
  short : List Char
  /-- Long names, whether they take a value, and the letters that they stand for. -/
  long : List (String × Bool × Char)
  /-- Nothing after an operand is an option. -/
  inFront : Bool
  /-- What is wrong with the value of an option. -/
  valueFault? : Char → Bytes → Option Bytes

/-- An option that was given, with its value. -/
abbrev Chosen := Char × Bytes

structure Options where
  chosen : List Chosen
  operands : List Bytes

def hint (program : String) : String := s!"Try '{program} --help' for more information.\n"

def OptionTable.fault (t : OptionTable) (message : Bytes) : Bytes :=
  t.program.toList ++ ": ".toList ++ message ++ "\n".toList ++ (hint t.program).toList

/-- The long option that is written, perhaps with its value. -/
def OptionTable.long? (t : OptionTable) (written : Bytes) : Except Bytes (String × Bool × Char) :=
  let name := written.takeWhile (· != '=')
  match t.long.filter fun (n, _) => name.isPrefixOf n.toList with
  | [] => .error (t.fault ("unrecognized option '--".toList ++ written ++ "'".toList))
  | [one] => .ok one
  | several =>
    match several.find? fun (n, _) => n.toList == name with
    | some exact => .ok exact
    | none =>
      .error (t.fault ("option '--".toList ++ written ++ "' is ambiguous; possibilities:".toList ++
        several.flatMap fun (n, _) => " '--".toList ++ n.toList ++ "'".toList))

/-- Help and version end a program at once. -/
def isFinal (c : Char) : Bool := c == '?' || c == '!'

def OptionTable.readLetters (t : OptionTable) (done : List Chosen) : Bytes → Except Bytes (List Chosen)
  | [] => .ok done
  | c :: r =>
    if t.short.contains c then readLetters t (done ++ [(c, [])]) r
    else .error (t.fault ("invalid option -- '".toList ++ [c] ++ "'".toList))

/-- The options and operands of a command line, or a message. -/
def OptionTable.read (t : OptionTable) (o : Options) : List Bytes → Except Bytes Options
  | [] => .ok o
  | a :: r =>
    match a with
    | ['-', '-'] => .ok { o with operands := o.operands ++ r }
    | '-' :: '-' :: written =>
      let name := written.takeWhile (· != '=')
      match t.long? written with
      | .error e => .error e
      | .ok (long, takesValue, c) =>
        if isFinal c && name == written then .ok { o with chosen := o.chosen ++ [(c, [])] }
        else if !takesValue then
          if name == written then t.read { o with chosen := o.chosen ++ [(c, [])] } r
          else .error (t.fault ("option '--".toList ++ long.toList ++ "' doesn't allow an argument".toList))
        else if name != written then
          let value := written.drop (name.length + 1)
          match t.valueFault? c value with
          | some message => .error message
          | none => t.read { o with chosen := o.chosen ++ [(c, value)] } r
        else
          match r with
          | value :: r =>
            match t.valueFault? c value with
            | some message => .error message
            | none => t.read { o with chosen := o.chosen ++ [(c, value)] } r
          | [] => .error (t.fault ("option '--".toList ++ long.toList ++ "' requires an argument".toList))
    | '-' :: c :: cs =>
      match t.readLetters o.chosen (c :: cs) with
      | .ok chosen => t.read { o with chosen } r
      | .error e => .error e
    | a =>
      if t.inFront then .ok { o with operands := o.operands ++ a :: r }
      else t.read { o with operands := o.operands ++ [a] } r

def Options.has (o : Options) (c : Char) : Bool := o.chosen.any (·.1 == c)

def finalOptions : List (String × Bool × Char) := [("help", false, '?'), ("version", false, '!')]

/-- Runs a program whose options are read by a table. -/
def withOptions (t : OptionTable) (run : Options → Given → Result) : Program := fun g =>
  match t.read ⟨[], []⟩ g.args with
  | .error message => ⟨[(false, message)], 1, g.input.pending⟩
  | .ok o =>
    match o.chosen.find? fun (c, _) => isFinal c with
    | some ('?', _) => ⟨[(true, s!"Usage: {t.program} [OPTION]... [FILE]...\n".toList)], 0, g.input.pending⟩
    | some _ => ⟨[(true, s!"{t.program} (GNU coreutils) 9.4\n".toList)], 0, g.input.pending⟩
    | none => run o g

/-- Names that lead to the input. -/
def inputNames : List Bytes := ["/dev/stdin".toList, "/dev/fd/0".toList, "/proc/self/fd/0".toList]

/-- What an operand names: the input, or a file. Also the input that is then left. -/
def contentOf (g : Given) (rest : Bytes) (operand : Bytes) : Except String (Bytes × Option Nat) × Bytes :=
  if operand == ['-'] || inputNames.contains operand then
    match g.input with
    | .bytes _ length => (.ok (rest, length), [])
    | .unreadable reason => (.error reason, rest)
    | .closed => (.error (if operand == ['-'] then badDescriptor else noSuchFile), rest)
  else ((g.file operand).map fun (content, hasLength) => (content, if hasLength then some content.length else none), rest)

end PlotTypes.Command

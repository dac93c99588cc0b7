/-
  PlotTypes.Command.Echo — the program that writes its arguments.

  Options stand in front, several letters in one argument: without a line's end, with
  escapes or without. An argument with another letter is no option.
-/

import PlotTypes.Command.Program

namespace PlotTypes.Command.Echo

structure Style where
  endsLine : Bool
  escapes : Bool
  deriving DecidableEq, Repr

def Style.plain : Style := ⟨true, false⟩

/-- The style after one letter, if it is an option. -/
def Style.after? (s : Style) : Char → Option Style
  | 'n' => some { s with endsLine := false }
  | 'e' => some { s with escapes := true }
  | 'E' => some { s with escapes := false }
  | _ => none

/-- The options in front of the arguments that are written. -/
def options (s : Style) : List Bytes → Style × List Bytes
  | ('-' :: c :: cs) :: r =>
    match (c :: cs).foldlM Style.after? s with
    | some s => options s r
    | none => (s, ('-' :: c :: cs) :: r)
  | args => (s, args)

/-! ## Escapes -/

def letters : List (Char × Char) :=
  [('a', '\x07'), ('b', '\x08'), ('e', '\x1b'), ('f', '\x0c'), ('n', '\n'), ('r', '\r'), ('t', '\t'), ('v', '\x0b'),
    ('\\', '\\')]

/-- A character by its number, from at most so many digits, and how many there are. -/
def numbered? (base limit : Nat) (cs : Bytes) : Option (Char × Nat) :=
  (readDigits base (cs.take limit)).map fun (n, rest) => (Char.ofNat (n % 256), (cs.take limit).length - rest.length)

/-- The character of an escape from after its backslash, and how much of the text it takes. -/
def escape : Bytes → Char × Nat
  | '0' :: r =>
    match numbered? 8 3 r with
    | some (c, n) => (c, n + 1)
    | none => ('\x00', 1)
  | 'x' :: r =>
    match numbered? 16 2 r with
    | some (c, n) => (c, n + 1)
    | none => ('\\', 0)
  | cs =>
    match numbered? 8 3 cs, cs.head?.bind (letters.lookup ·) with
    | some found, _ => found
    | none, some c => (c, 1)
    | none, none => ('\\', 0)

/-- A text whose escapes are put in, and whether one of them ends all output; `skip`
    characters belong to an escape already. -/
def unescaped (skip : Nat) : Bytes → Bytes × Bool
  | [] => ([], false)
  | c :: r =>
    if skip > 0 then unescaped (skip - 1) r
    else if c == '\\' && r.head? == some 'c' then ([], true)
    else
      let (d, n) := if c == '\\' then escape r else (c, 0)
      let (text, ends) := unescaped n r
      (d :: text, ends)

def program : Program := fun g =>
  let (s, args) := options .plain g.args
  let joined := List.intercalate [' '] args
  let (text, ends) := if s.escapes then unescaped 0 joined else (joined, false)
  ⟨[(true, if s.endsLine && !ends then text ++ ['\n'] else text)], 0, g.input.pending⟩

end PlotTypes.Command.Echo

/-
  PlotTypes.Command.Printf — texts with escapes, and texts made after a format.

  A format is used again until all arguments are; missing ones count as empty or zero. An
  argument that is no number is reported, and as much of it as is one counts. Decimals
  are exact, a tie goes to the even neighbour.
-/

import PlotTypes.Command.Number
import PlotTypes.Decimal.Binary64
import PlotTypes.Text.Pieces

namespace PlotTypes.Command.Printf

/-! ## Escapes -/

def isOctal (c : Char) : Bool := '0' ≤ c && c ≤ '7'

def octalByte (ds : Bytes) : Char := Char.ofNat (ds.foldl (fun n d => n * 8 + (d.toNat - '0'.toNat)) 0 % 256)

def letters : List (Char × Char) :=
  [('\\', '\\'), ('a', '\x07'), ('b', '\x08'), ('e', '\x1b'), ('f', '\x0c'), ('n', '\n'), ('r', '\r'), ('t', '\t'), ('v', '\x0b')]

/-- The character of an escape from after its backslash, and how much of the text it takes. -/
def escape (cs : Bytes) : Char × Nat :=
  let ds := (cs.take 3).takeWhile isOctal
  if !ds.isEmpty then (octalByte ds, ds.length)
  else
    match cs.head?.bind fun c => letters.lookup c with
    | some c => (c, 1)
    | none => ('\\', 0)

/-- A text whose escapes are put in, and whether one of them ends all output; `skip`
    characters belong to an escape already. -/
def unescaped (skip : Nat) : Bytes → Bytes × Bool
  | [] => ([], false)
  | c :: r =>
    if skip > 0 then unescaped (skip - 1) r
    else if c != '\\' then
      let (text, ends) := unescaped 0 r
      (c :: text, ends)
    else if r.head? == some 'c' then ([], true)
    else
      -- A zero may stand before three octal digits.
      let isLong := r.head? == some '0' && (r.drop 1).head?.any isOctal
      let (d, n) := escape (if isLong then r.drop 1 else r)
      let (text, ends) := unescaped (if isLong then n + 1 else n) r
      (d :: text, ends)

/-! ## Directives -/

structure Directive where
  flags : List Char
  width : Nat
  precision : Option Nat
  conversion : Char

def Directive.has (d : Directive) (c : Char) : Bool := d.flags.contains c

/-- A text in a field of the directive's width. -/
def Directive.pad (d : Directive) (s : Bytes) : Bytes :=
  let blanks := List.replicate (d.width - s.length) ' '
  if d.has '-' then s ++ blanks else blanks ++ s

/-- A number with its sign or base in front; zeros may fill the field between them. -/
def Directive.padNumber (d : Directive) (fills : Bool) (front body : Bytes) : Bytes :=
  if fills && d.has '0' && !d.has '-' then
    front ++ List.replicate (d.width - front.length - body.length) '0' ++ body
  else d.pad (front ++ body)

def Directive.sign (d : Directive) (isNegative : Bool) : Bytes :=
  if isNegative then ['-'] else if d.has '+' then ['+'] else if d.has ' ' then [' '] else []

def Directive.text (d : Directive) (s : Bytes) : Bytes :=
  d.pad (match d.precision with
    | some n => s.take n
    | none => s)

/-- Digits, as many as the precision asks for. -/
def Directive.digits (d : Directive) (base n : Nat) : Bytes :=
  let ds := if n = 0 && d.precision == some 0 then [] else Nat.toDigits base n
  List.replicate (d.precision.getD 1 - ds.length) '0' ++ ds

def Directive.signed (d : Directive) (i : Int) : Bytes :=
  d.padNumber d.precision.isNone (d.sign (i < 0)) (d.digits 10 i.natAbs)

def Directive.unsigned (d : Directive) (n : Nat) : Bytes :=
  let fills := d.precision.isNone
  match d.conversion with
  | 'o' =>
    let ds := d.digits 8 n
    d.padNumber fills [] (if d.has '#' && ds.head? != some '0' then '0' :: ds else ds)
  | 'x' => d.padNumber fills (if d.has '#' && n != 0 then "0x".toList else []) (d.digits 16 n)
  | 'X' => d.padNumber fills (if d.has '#' && n != 0 then "0X".toList else []) ((d.digits 16 n).map Char.toUpper)
  | _ => d.padNumber fills [] (d.digits 10 n)

/-! ## Decimals -/

inductive Real where
  | finite (isNegative : Bool) (magnitude : Decimal.Binary64)
  | infinite (isNegative : Bool)
  | undefined (isNegative : Bool)
  deriving DecidableEq, Repr

/-- The magnitude as a fraction. -/
def fraction (b : Decimal.Binary64) : Nat × Nat := (b.significand * Nat.pow 2 b.exponent.toNat, Nat.pow 2 (-b.exponent).toNat)

/-- With a fixed number of places. -/
def fixed (places : Nat) (point : Bool) (b : Decimal.Binary64) : Bytes :=
  let (num, den) := fraction b
  let ds := Nat.toDigits 10 (Decimal.Binary64.divNearest (num * Nat.pow 10 places) den)
  let ds := List.replicate (places + 1 - ds.length) '0' ++ ds
  let whole := ds.take (ds.length - places)
  if places = 0 then if point then whole ++ ['.'] else whole else whole ++ '.' :: ds.drop (ds.length - places)

/-- The largest power of ten that is not above a fraction, from some power down. -/
def exponentBelow (num den : Nat) : Nat → Int → Int
  | 0, e => e
  | n + 1, e => if den * Nat.pow 10 e.toNat ≤ num * Nat.pow 10 (-e).toNat then e else exponentBelow num den n (e - 1)

/-- As many digits as places and one more, and the exponent of the first. -/
def scaled (places : Nat) (b : Decimal.Binary64) : Bytes × Int :=
  if b.significand = 0 then (List.replicate (places + 1) '0', 0)
  else
    let (num, den) := fraction b
    let guess : Int := ((Nat.toDigits 10 num).length : Int) - (Nat.toDigits 10 den).length
    let e := exponentBelow num den 3 (guess + 1)
    let shift : Int := places - e
    let ds := Nat.toDigits 10 (Decimal.Binary64.divNearest (num * Nat.pow 10 shift.toNat) (den * Nat.pow 10 (-shift).toNat))
    if ds.length > places + 1 then (ds.take (places + 1), e + 1) else (ds, e)

def exponentText (letter : Char) (e : Int) : Bytes :=
  let ds := Nat.toDigits 10 e.natAbs
  letter :: (if e < 0 then '-' else '+') :: (List.replicate (2 - ds.length) '0' ++ ds)

def pointed (point : Bool) : Bytes → Bytes
  | [] => []
  | [c] => if point then [c, '.'] else [c]
  | c :: r => c :: '.' :: r

def scientific (letter : Char) (places : Nat) (point : Bool) (b : Decimal.Binary64) : Bytes :=
  let (ds, e) := scaled places b
  pointed point ds ++ exponentText letter e

def withoutZeros (ds : Bytes) : Bytes :=
  if ds.contains '.' then Text.dropEnd (· == '.') (Text.dropEnd (· == '0') ds) else ds

/-- The shorter one of both notations, without the zeros at its end. -/
def general (letter : Char) (precision : Nat) (keepsZeros : Bool) (b : Decimal.Binary64) : Bytes :=
  let p := max precision 1
  let (ds, e) := scaled (p - 1) b
  let trim (s : Bytes) : Bytes := if keepsZeros then s else withoutZeros s
  if e < -4 || (p : Int) ≤ e then trim (pointed keepsZeros ds) ++ exponentText letter e
  else trim (fixed ((p : Int) - 1 - e).toNat keepsZeros b)

/-- With binary exponent and digits of base sixteen. -/
def hexadecimal (precision : Option Nat) (point : Bool) (b : Decimal.Binary64) : Bytes :=
  let shown := fun (lead : Nat) (ds : Bytes) (e : Int) =>
    '0' :: 'x' :: (Nat.toDigits 16 lead ++ (if ds.isEmpty then (if point then ['.'] else []) else '.' :: ds) ++
      'p' :: (if e < 0 then '-' else '+') :: Nat.toDigits 10 e.natAbs)
  if b.significand = 0 then shown 0 (List.replicate (precision.getD 0) '0') 0
  else
    let isNormal := Nat.pow 2 52 ≤ b.significand
    let e : Int := if isNormal then b.exponent + 52 else -1022
    let digits (n places : Nat) : Bytes :=
      let ds := Nat.toDigits 16 n
      if places = 0 then [] else List.replicate (places - ds.length) '0' ++ ds
    match precision with
    | none => shown (b.significand / Nat.pow 2 52) (Text.dropEnd (· == '0') (digits (b.significand % Nat.pow 2 52) 13)) e
    | some p =>
      let places := min p 13
      let rounded := Decimal.Binary64.divNearest b.significand (Nat.pow 2 (4 * (13 - places)))
      let unit := Nat.pow 2 (4 * places)
      shown (rounded / unit) (digits (rounded % unit) places ++ List.replicate (p - places) '0') e

def Directive.real (d : Directive) (x : Real) : Bytes :=
  let isUpper := d.conversion.isUpper
  let cased (s : Bytes) : Bytes := if isUpper then s.map Char.toUpper else s
  match x with
  | .infinite n => d.pad (d.sign n ++ cased "inf".toList)
  | .undefined n => d.pad (d.sign n ++ cased "nan".toList)
  | .finite n b =>
    let p := d.precision.getD 6
    let point := d.has '#'
    match d.conversion.toLower with
    | 'f' => d.padNumber true (d.sign n) (fixed p point b)
    | 'e' => d.padNumber true (d.sign n) (cased (scientific 'e' p point b))
    | 'g' => d.padNumber true (d.sign n) (cased (general 'e' p point b))
    | _ =>
      let s := cased (hexadecimal d.precision point b)
      d.padNumber true (d.sign n ++ s.take 2) (s.drop 2)

/-! ## Arguments -/

structure Progress where
  args : List Bytes
  out : Bytes
  /-- The last one first. -/
  complaints : List Bytes
  /-- All output has ended. -/
  ended : Bool
  /-- The format cannot be used. -/
  fault : Option Bytes

def Progress.complain (p : Progress) (arg : Bytes) (s : String) : Progress :=
  { p with complaints := (arg ++ ": ".toList ++ s.toList) :: p.complaints }

def Progress.write (p : Progress) (s : Bytes) : Progress := { p with out := p.out ++ s }

def Progress.takeText (p : Progress) : Bytes × Progress := (p.args.headD [], { p with args := p.args.drop 1 })

def rangeMessage : String := "Numerical result out of range"

/-- What a reader made of an argument: the value, what is left, and whether it was in range. -/
def Progress.checked (p : Progress) (arg rest : Bytes) (inRange : Bool) : Progress :=
  if !rest.isEmpty then
    p.complain arg (if rest.length == arg.length then "expected numeric value" else "not completely converted")
  else if !inRange then p.complain arg rangeMessage
  else p

def quotedValue? : Bytes → Option Nat
  | '"' :: r | '\'' :: r => some ((r.head?.map Char.toNat).getD 0)
  | _ => none

/-- The next argument as an integer; an unsigned one goes around. -/
def Progress.takeInteger (p : Progress) (isSigned : Bool) : Int × Progress :=
  match p.args with
  | [] => (0, p)
  | arg :: r =>
    let p := { p with args := r }
    match quotedValue? arg with
    | some n => (n, p)
    | none =>
      match readSigned none arg with
      | none => (0, p.checked arg arg true)
      | some (i, rest) =>
        let (low, high) : Int × Int := if isSigned then (minInteger, maxInteger) else (-(Int.pow 2 64 - 1), Int.pow 2 64 - 1)
        let value := if i < low then (if isSigned then low else high) else if high < i then high else i
        (value, p.checked arg rest (low ≤ i && i ≤ high))

/-- A decimal or hexadecimal fraction at the start of a text: the digits, the exponent of
    the last one, and the rest. -/
def readMantissa (base : Nat) (cs : Bytes) : Option (Nat × Int × Bytes) :=
  let isDigit (c : Char) : Bool := (digitValue? base c).isSome
  let whole := cs.takeWhile isDigit
  let after := cs.drop whole.length
  let places := match after with
    | '.' :: r => r.takeWhile isDigit
    | _ => []
  if whole.isEmpty && places.isEmpty then none
  else
    let rest := match after with
      | '.' :: r => r.drop places.length
      | _ => after
    some ((whole ++ places).foldl (fun n c => n * base + (digitValue? base c).getD 0) 0, -(places.length : Int), rest)

/-- An exponent after one of two letters, if there is one. -/
def readExponent (letter : Char) (cs : Bytes) : Int × Bytes :=
  match cs with
  | c :: r =>
    if c.toLower != letter then (0, cs)
    else
      let (isNegative, ds) := match r with
        | '-' :: ds => (true, ds)
        | '+' :: ds => (false, ds)
        | ds => (false, ds)
      match readDigits 10 ds with
      | some (n, rest) =>
        let n := min n 100000
        (if isNegative then -(n : Int) else n, rest)
      | none => (0, cs)
  | [] => (0, cs)

/-- A number with a fraction at the start of a text, and the rest; also whether it is in range. -/
def readReal (cs : Bytes) : Option (Real × Bytes × Bool) :=
  let (isNegative, r) := match cs.dropWhile Pattern.isSpaceByte with
    | '-' :: r => (true, r)
    | '+' :: r => (false, r)
    | r => (false, r)
  let lower := r.map Char.toLower
  let rounded (num den : Nat) (rest : Bytes) : Option (Real × Bytes × Bool) :=
    match Decimal.Binary64.ofRatio? num den with
    | some b => some (.finite isNegative b, rest, !(b.isZero && num != 0))
    | none => some (.infinite isNegative, rest, false)
  let decimal : Option (Real × Bytes × Bool) :=
    (readMantissa 10 r).bind fun (m, e, rest) =>
      let (x, rest) := readExponent 'e' rest
      if m = 0 then some (.finite isNegative .zero, rest, true)
      else rounded (m * Nat.pow 10 (e + x).toNat) (Nat.pow 10 (-(e + x)).toNat) rest
  if "infinity".toList.isPrefixOf lower then some (.infinite isNegative, r.drop 8, true)
  else if "inf".toList.isPrefixOf lower then some (.infinite isNegative, r.drop 3, true)
  else if "nan".toList.isPrefixOf lower then some (.undefined isNegative, r.drop 3, true)
  else if "0x".toList.isPrefixOf lower then
    match readMantissa 16 (r.drop 2) with
    | some (m, e, rest) =>
      let (x, rest) := readExponent 'p' rest
      let e := 4 * e + x
      rounded (m * Nat.pow 2 e.toNat) (Nat.pow 2 (-e).toNat) rest
    | none => decimal
  else decimal

def Progress.takeReal (p : Progress) : Real × Progress :=
  match p.args with
  | [] => (.finite false .zero, p)
  | arg :: r =>
    let p := { p with args := r }
    match quotedValue? arg with
    | some n => (.finite false ((Decimal.Binary64.ofNat? n).getD .zero), p)
    | none =>
      match readReal arg with
      | none => (.finite false .zero, p.checked arg arg true)
      | some (x, rest, inRange) => (x, p.checked arg rest inRange)

/-! ## Formats -/

/-- A number in a format: written there, or the next argument. -/
def readSize (p : Progress) (cs : Bytes) : Int × Bytes × Progress :=
  match cs with
  | '*' :: r =>
    let (i, p) := p.takeInteger true
    (i, r, p)
  | cs =>
    let ds := cs.takeWhile Char.isDigit
    ((ds.foldl (fun n c => n * 10 + (c.toNat - '0'.toNat)) 0 : Nat), cs.drop ds.length, p)

/-- A directive from after its percent sign, and the rest. -/
def readDirective (p : Progress) (cs : Bytes) : Option (Directive × Bytes × Progress) :=
  let flags := cs.takeWhile fun c => "#-+ 0".toList.contains c
  let (width, cs, p) := readSize p (cs.drop flags.length)
  let (precision, cs, p) : Option Int × Bytes × Progress :=
    match cs with
    | '.' :: r =>
      let (i, r, p) := readSize p r
      (some i, r, p)
    | cs => (none, cs, p)
  let precision := precision.bind fun i => if i < 0 then none else some i.toNat
  match cs with
  | [] => none
  | c :: r => some (⟨if width < 0 then '-' :: flags else flags, width.natAbs, precision, c⟩, r, p)

/-- Writes what a directive makes of the next argument. -/
def perform (p : Progress) (d : Directive) (written : Bytes) : Progress :=
  match d.conversion with
  | 'b' =>
    let (s, p) := p.takeText
    let (s, ends) := unescaped 0 s
    { p.write (d.text s) with ended := ends }
  | 'c' =>
    let (s, p) := p.takeText
    p.write (d.pad [s.headD '\x00'])
  | 's' =>
    let (s, p) := p.takeText
    p.write (d.text s)
  | 'd' | 'i' =>
    let (i, p) := p.takeInteger true
    p.write (d.signed i)
  | 'o' | 'u' | 'x' | 'X' =>
    let (i, p) := p.takeInteger false
    p.write (d.unsigned (i.emod (Int.pow 2 64)).toNat)
  | c =>
    if "aAeEfFgG".toList.contains c then
      let (x, p) := p.takeReal
      p.write (d.real x)
    else { p with fault := some ('%' :: written ++ ": invalid directive".toList) }

/-- Goes through the format once. -/
def once : Nat → Progress → Bytes → Progress
  | 0, p, _ => p
  | _, p, [] => p
  | n + 1, p, c :: r =>
    if p.ended || p.fault.isSome then p
    else if c == '\\' then
      let (d, used) := escape r
      once n (p.write [d]) (r.drop used)
    else if c != '%' then once n (p.write [c]) r
    else if r.head? == some '%' then once n (p.write ['%']) (r.drop 1)
    else
      match readDirective p r with
      | none => { p with fault := some "missing format character".toList }
      | some (d, rest, p) => once n (perform p d (r.take (r.length - rest.length))) rest

/-- Goes through the format until no arguments are left, or it takes none. -/
def again (format : Bytes) : Nat → Progress → Progress
  | 0, p => p
  | n + 1, p =>
    let q := once (format.length + 1) p format
    if q.ended || q.fault.isSome || q.args.isEmpty || q.args.length == p.args.length then q else again format n q

def printf (format : Bytes) (args : List Bytes) : Progress :=
  again format (args.length + 1) ⟨args, [], [], false, none⟩

end PlotTypes.Command.Printf

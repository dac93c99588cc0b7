/-
  PlotTypes.Proofs.Python.LiteralReader — literals read back.

  A value written as a literal stands in a signature or in a list of entries, with more text
  after it. The reader here knows Python's tokens and nothing of how literals are written: it
  takes the longest numeral or word, decodes the escapes of a string until its closing quote,
  and allows blanks and a last comma between brackets.
  - `readQuoted_escapeChar`: an escaped character reads as the character, whatever follows.
  - `isNumeral_text`: what the text of a number is made of.
  - `readValue_literalChars` and those beside it: a written value reads back and leaves what
    follows it, by recursion over the value.
  - `LiteralValue.ofJson_inj`: a value is determined by what its literal stands for, as far as
    its numbers are by their texts.
  - `controlFree_literalChars`: a literal has no control character.
  - `literal_reads_back`: all of this for literals and string literals.
-/

import PlotTypes.Json.Reader
import PlotTypes.Proofs.Python.Word

namespace PlotTypes.Python

open PlotTypes.Text
open PlotTypes.Json (hexDigit? skipBlank)

variable {c : Char}

/-! ## Values -/

/-- What a literal stands for. A number is its text; a dict keeps the order of its entries. -/
inductive LiteralValue where
  | none
  | bool (b : Bool)
  | number (text : String)
  | string (s : String)
  | list (items : List LiteralValue)
  | dict (entries : List (String × LiteralValue))
  deriving Repr

namespace LiteralValue

mutual

def ofJson : Json → LiteralValue
  | .null => .none
  | .bool b => .bool b
  | .number n => .number n.text
  | .string s => .string s
  | .array items => .list (ofItems items)
  | .object members => .dict (ofMembers members)

def ofItems : List Json → List LiteralValue
  | [] => []
  | v :: r => ofJson v :: ofItems r

def ofMembers : List (String × Json) → List (String × LiteralValue)
  | [] => []
  | (key, v) :: r => (key, ofJson v) :: ofMembers r

end

end LiteralValue

/-! ## The reader -/

def unescaped? (c : Char) : Option Char :=
  [('\\', '\\'), ('\'', '\''), ('n', '\n'), ('r', '\r'), ('t', '\t')].lookup c

def readAfter (c : Char) (read : Option (List Char × List Char)) : Option (List Char × List Char) :=
  read.map fun (s, r) => (c :: s, r)

/-- The characters of a string, and the text after its closing quote. A line break ends the line and so is refused. -/
def readQuoted : List Char → Option (List Char × List Char)
  | [] => none
  | '\'' :: r => some ([], r)
  | '\\' :: 'x' :: a :: b :: r =>
    match hexDigit? a, hexDigit? b with
    | some high, some low => readAfter (Char.ofNat (16 * high + low)) (readQuoted r)
    | _, _ => none
  | '\\' :: c :: r => (unescaped? c).bind fun c => readAfter c (readQuoted r)
  | c :: r => if c == '\n' || c == '\r' then none else readAfter c (readQuoted r)

def readString : List Char → Option (String × List Char)
  | '\'' :: r => (readQuoted r).map fun (s, r) => (String.ofList s, r)
  | _ => none

def isNumeric (c : Char) : Bool := c.isDigit || ['+', '-', '.', 'e', 'E'].contains c

def startsNumber (c : Char) : Bool := c.isDigit || c == '-'

def readNumber (cs : List Char) : LiteralValue × List Char :=
  (.number (String.ofList (cs.takeWhile isNumeric)), cs.dropWhile isNumeric)

def named? (word : List Char) : Option LiteralValue :=
  [("None".toList, LiteralValue.none), ("True".toList, .bool true), ("False".toList, .bool false)].lookup word

def readName (cs : List Char) : Option (LiteralValue × List Char) :=
  let (word, r) := splitWord cs
  (named? word).map (·, r)

def after? (d : Char) (cs : List Char) : Option (List Char) :=
  match skipBlank cs with
  | [] => none
  | c :: r => if c == d then some r else none

mutual

/-- The value at the start of a text, and the text after it. Every nested call spends fuel; the length of the text
    is enough. -/
def readValue : Nat → List Char → Option (LiteralValue × List Char)
  | 0, _ => none
  | _ + 1, [] => none
  | fuel + 1, c :: r =>
    if c == '[' then (readItems fuel r).map fun (vs, r) => (.list vs, r)
    else if c == '{' then (readEntries fuel r).map fun (es, r) => (.dict es, r)
    else if c == '\'' then (readString (c :: r)).map fun (s, r) => (.string s, r)
    else if startsNumber c then some (readNumber (c :: r))
    else readName (c :: r)

/-- The items up to the closing bracket. The last one may have a comma after it. -/
def readItems : Nat → List Char → Option (List LiteralValue × List Char)
  | 0, _ => none
  | fuel + 1, cs =>
    match after? ']' cs with
    | some r => some ([], r)
    | none => do
      let (v, r) ← readValue fuel (skipBlank cs)
      match after? ']' r with
      | some r => some ([v], r)
      | none =>
        let (vs, r) ← readItems fuel (← after? ',' r)
        some (v :: vs, r)

def readEntries : Nat → List Char → Option (List (String × LiteralValue) × List Char)
  | 0, _ => none
  | fuel + 1, cs =>
    match after? '}' cs with
    | some r => some ([], r)
    | none => do
      let (key, r) ← readString (skipBlank cs)
      let (v, r) ← readValue fuel (skipBlank (← after? ':' r))
      match after? '}' r with
      | some r => some ([(key, v)], r)
      | none =>
        let (es, r) ← readEntries fuel (← after? ',' r)
        some ((key, v) :: es, r)

end

def readLiteral (cs : List Char) : Option (LiteralValue × List Char) := readValue cs.length cs

/-! ## Strings -/

theorem le_of_isControl {c : Char} (h : isControl c = true) : c.toNat ≤ 0x9F := by
  simp [isControl, inRanges] at h
  omega

theorem hexDigit?_digitChar {d : Nat} (h : d < 16) : hexDigit? (Nat.digitChar d) = some d := by
  revert d
  decide

theorem readQuoted_hexEscape (hc : isControl c = true) (r : List Char) :
    readQuoted (hexEscape c ++ r) = readAfter c (readQuoted r) := by
  have hle := le_of_isControl hc
  have hhigh : hexDigit? (Nat.digitChar (c.toNat / 16)) = some (c.toNat / 16) := hexDigit?_digitChar (by omega)
  have hlow : hexDigit? (Nat.digitChar (c.toNat % 16)) = some (c.toNat % 16) := hexDigit?_digitChar (by omega)
  simp only [hexEscape, List.cons_append, List.nil_append, readQuoted, hhigh, hlow]
  rw [Nat.div_add_mod, Char.ofNat_toNat]

/-- An escaped character reads as the character, whatever follows it. -/
theorem readQuoted_escapeChar (c : Char) (r : List Char) :
    readQuoted (escapeChar c ++ r) = readAfter c (readQuoted r) := by
  by_cases hslash : c = '\\'
  · subst hslash; rfl
  by_cases hquote : c = '\''
  · subst hquote; rfl
  by_cases hfeed : c = '\n'
  · subst hfeed; rfl
  by_cases hreturn : c = '\r'
  · subst hreturn; rfl
  by_cases htab : c = '\t'
  · subst htab; rfl
  by_cases hcontrol : isControl c = true
  · simp [escapeChar, hslash, hquote, hfeed, hreturn, htab, hcontrol, readQuoted_hexEscape hcontrol]
  · simp [escapeChar, hslash, hquote, hfeed, hreturn, htab, hcontrol, readQuoted]

theorem readQuoted_flatMap (s r : List Char) : readQuoted (s.flatMap escapeChar ++ '\'' :: r) = some (s, r) := by
  induction s with
  | nil => rfl
  | cons c s ih => rw [List.flatMap_cons, List.append_assoc, readQuoted_escapeChar, ih]; rfl

theorem readString_quoted (s : String) (r : List Char) : readString (quoted s.toList ++ r) = some (s, r) := by
  simp [quoted, readString, readQuoted_flatMap]

/-! ## Numbers -/

structure IsNumeral (cs : List Char) : Prop where
  starts : ∃ c r, cs = c :: r ∧ startsNumber c = true
  numeric : ∀ c ∈ cs, isNumeric c = true

theorem isNumeric_of_isDigit (h : c.isDigit = true) : isNumeric c = true := by simp [isNumeric, h]

theorem isDigit_of_mem_toDigits {n : Nat} (h : c ∈ Nat.toDigits 10 n) : c.isDigit = true :=
  Nat.isDigit_of_mem_toDigits (by decide) (by decide) h

theorem toDigits_eq_cons (n : Nat) : ∃ c r, Nat.toDigits 10 n = c :: r ∧ c.isDigit = true := by
  cases h : Nat.toDigits 10 n with
  | nil => exact absurd h Nat.toDigits_ne_nil
  | cons c r => exact ⟨c, r, rfl, isDigit_of_mem_toDigits (h ▸ List.mem_cons_self)⟩

theorem isNumeral_of_digit (hc : c.isDigit = true) {r : List Char} (hr : ∀ d ∈ r, isNumeric d = true) :
    IsNumeral (c :: r) where
  starts := ⟨c, r, rfl, by simp [startsNumber, hc]⟩
  numeric := List.forall_mem_cons.mpr ⟨isNumeric_of_isDigit hc, hr⟩

theorem IsNumeral.signed {cs : List Char} (h : IsNumeral cs) (negative : Prop) [Decidable negative] :
    IsNumeral ((if negative then ['-'] else []) ++ cs) := by
  split
  · exact ⟨⟨'-', cs, rfl, rfl⟩, List.forall_mem_cons.mpr ⟨rfl, h.numeric⟩⟩
  · exact h

theorem isNumeral_toDigits (n : Nat) : IsNumeral (Nat.toDigits 10 n) := by
  obtain ⟨c, r, h, hc⟩ := toDigits_eq_cons n
  refine ⟨⟨c, r, h, by simp [startsNumber, hc]⟩, fun d hd => isNumeric_of_isDigit (isDigit_of_mem_toDigits hd)⟩

theorem isNumeral_positional (d : Decimal.Scaled) : IsNumeral d.positional := by
  obtain ⟨c, r, hd, hc⟩ := toDigits_eq_cons d.digits
  have hr : ∀ x ∈ r, isNumeric x = true := fun x hx =>
    isNumeric_of_isDigit (isDigit_of_mem_toDigits (hd ▸ List.mem_cons_of_mem c hx))
  have hzeros (n : Nat) : ∀ x ∈ List.replicate n '0', isNumeric x = true := by
    intro x hx
    obtain rfl := List.eq_of_mem_replicate hx
    rfl
  simp only [Decimal.Scaled.positional, Decimal.Scaled.characters, hd]
  split
  · refine isNumeral_of_digit rfl (List.forall_mem_cons.mpr ⟨rfl, List.forall_mem_append.mpr ⟨hzeros _, ?_⟩⟩)
    exact List.forall_mem_cons.mpr ⟨isNumeric_of_isDigit hc, hr⟩
  · rw [List.take_succ_cons, List.cons_append, List.cons_append, List.drop_succ_cons]
    refine isNumeral_of_digit hc (List.forall_mem_append.mpr ⟨List.forall_mem_append.mpr ⟨?_, hzeros _⟩, ?_⟩)
    · exact fun x hx => hr x (List.mem_of_mem_take hx)
    · refine List.forall_mem_cons.mpr ⟨rfl, ?_⟩
      split
      · simp [isNumeric]
      · exact fun x hx => hr x (List.mem_of_mem_drop hx)

theorem isNumeral_scientific (d : Decimal.Scaled) : IsNumeral d.scientific := by
  obtain ⟨c, r, hd, hc⟩ := toDigits_eq_cons d.digits
  have hr : ∀ x ∈ r, isNumeric x = true := fun x hx =>
    isNumeric_of_isDigit (isDigit_of_mem_toDigits (hd ▸ List.mem_cons_of_mem c hx))
  have hexponent : ∀ x ∈ 'e' :: (if d.magnitude < 0 then '-' else '+') :: Nat.toDigits 10 d.magnitude.natAbs,
      isNumeric x = true := by
    refine List.forall_mem_cons.mpr ⟨rfl, List.forall_mem_cons.mpr ⟨?_, (isNumeral_toDigits _).numeric⟩⟩
    split
    · rfl
    · rfl
  simp only [Decimal.Scaled.scientific, Decimal.Scaled.characters, hd]
  cases r with
  | nil => exact isNumeral_of_digit hc hexponent
  | cons c' r' =>
    exact isNumeral_of_digit hc (List.forall_mem_append.mpr ⟨List.forall_mem_cons.mpr ⟨rfl, hr⟩, hexponent⟩)

theorem isNumeral_text (n : Json.Number) : IsNumeral n.text.toList := by
  cases n with
  | integer n => simpa [Json.Number.text] using (isNumeral_toDigits n.natAbs).signed (n < 0)
  | real negative magnitude =>
    have htext : IsNumeral magnitude.shortest.text := by
      unfold Decimal.Scaled.text
      split
      · exact isNumeral_positional _
      · exact isNumeral_scientific _
    simpa [Json.Number.text] using htext.signed (negative = true)

/-! ## What follows a value -/

def enders : List Char := [',', ']', '}', ':', '\n']

def Follows : List Char → Prop
  | [] => True
  | c :: _ => c ∈ enders

theorem Follows.span {p : Char → Bool} {w rest : List Char} (hrest : Follows rest)
    (hp : enders.any p = false) (hw : ∀ c ∈ w, p c = true) :
    (w ++ rest).takeWhile p = w ∧ (w ++ rest).dropWhile p = rest := by
  rw [List.takeWhile_append_of_pos hw, List.dropWhile_append_of_pos hw]
  cases rest with
  | nil => simp
  | cons c r => simp [List.any_eq_false.mp hp c hrest]

theorem readValue_of_startsNumber (hc : startsNumber c = true) (r : List Char) (fuel : Nat) :
    readValue (fuel + 1) (c :: r) = some (readNumber (c :: r)) := by
  have hother : ∀ d, startsNumber d = false → (c == d) = false := by
    intro d hd
    rw [beq_eq_false_iff_ne]
    rintro rfl
    rw [hc] at hd
    cases hd
  rw [readValue, hother '[' rfl, hother '{' rfl, hother '\'' rfl, hc]
  rfl

theorem readValue_number (n : Json.Number) {rest : List Char} (hrest : Follows rest) (fuel : Nat) :
    readValue (fuel + 1) (n.text.toList ++ rest) = some (.number n.text, rest) := by
  obtain ⟨⟨c, r, htext, hc⟩, hnumeric⟩ := isNumeral_text n
  obtain ⟨htake, hdrop⟩ := hrest.span (by decide) hnumeric
  have hread : readValue (fuel + 1) (n.text.toList ++ rest) = some (readNumber (n.text.toList ++ rest)) := by
    rw [htext, List.cons_append, readValue_of_startsNumber hc]
  rw [hread, readNumber, htake, hdrop, String.ofList_toList]

theorem readName_append {w : String} {rest : List Char} {v : LiteralValue} (hrest : Follows rest) (hw : WordText w)
    (hv : named? w.toList = some v) : readName (w.toList ++ rest) = some (v, rest) := by
  have hsplit : splitWord (w.toList ++ rest) = (w.toList, rest) := Prod.ext_iff.mpr (hrest.span (by decide) hw)
  simp only [readName, hsplit, hv, Option.map_some]

/-! ## The start of a value -/

def startsValue (c : Char) : Bool := startsNumber c || ['N', 'T', 'F', '\'', '[', '{'].contains c

theorem startsValue_beq {d : Char} (hc : startsValue c = true) (hd : startsValue d = false) : (c == d) = false := by
  rw [beq_eq_false_iff_ne]
  rintro rfl
  rw [hc] at hd
  cases hd

theorem skipBlank_of_startsValue (hc : startsValue c = true) (r : List Char) : skipBlank (c :: r) = c :: r := by
  rw [skipBlank, List.dropWhile_cons_of_neg]
  simp [startsValue_beq hc (d := ' ') rfl, startsValue_beq hc (d := '\t') rfl, startsValue_beq hc (d := '\r') rfl,
    startsValue_beq hc (d := '\n') rfl]

theorem after?_of_startsValue (hc : startsValue c = true) {d : Char} (hd : startsValue d = false) (r : List Char) :
    after? d (c :: r) = none := by
  simp [after?, skipBlank_of_startsValue hc, startsValue_beq hc hd]

theorem exists_literalChars_eq_cons (v : Json) : ∃ c r, literalChars v = c :: r ∧ startsValue c = true := by
  cases v with
  | null => exact ⟨'N', _, rfl, rfl⟩
  | bool b =>
    cases b with
    | true => exact ⟨'T', _, rfl, rfl⟩
    | false => exact ⟨'F', _, rfl, rfl⟩
  | number n =>
    obtain ⟨c, r, htext, hc⟩ := (isNumeral_text n).starts
    exact ⟨c, r, htext, by simp [startsValue, hc]⟩
  | string s => exact ⟨'\'', _, rfl, rfl⟩
  | array items => exact ⟨'[', _, rfl, rfl⟩
  | object members => exact ⟨'{', _, rfl, rfl⟩

/-! ## Round trip -/

theorem skipBlank_literalChars (v : Json) (r : List Char) : skipBlank (literalChars v ++ r) = literalChars v ++ r := by
  obtain ⟨c, s, hcons, hc⟩ := exists_literalChars_eq_cons v
  rw [hcons, List.cons_append, skipBlank_of_startsValue hc]

theorem after?_literalChars (v : Json) {d : Char} (hd : startsValue d = false) (r : List Char) :
    after? d (literalChars v ++ r) = none := by
  obtain ⟨c, s, hcons, hc⟩ := exists_literalChars_eq_cons v
  rw [hcons, List.cons_append, after?_of_startsValue hc hd]

/-! ## Round trip -/

theorem readItems_blank (fuel : Nat) (cs : List Char) : readItems fuel (' ' :: cs) = readItems fuel cs := by
  cases fuel with
  | zero => rfl
  | succ fuel => rw [readItems, readItems]; rfl

theorem readEntries_blank (fuel : Nat) (cs : List Char) : readEntries fuel (' ' :: cs) = readEntries fuel cs := by
  cases fuel with
  | zero => rfl
  | succ fuel => rw [readEntries, readEntries]; rfl

theorem readItems_item (v : Json) (fuel : Nat) (r : List Char) :
    readItems (fuel + 1) (literalChars v ++ r) =
      (readValue fuel (literalChars v ++ r)).bind fun (v, r) =>
        match after? ']' r with
        | some r => some ([v], r)
        | none => (after? ',' r).bind fun r => (readItems fuel r).bind fun (vs, r) => some (v :: vs, r) := by
  rw [readItems, after?_literalChars v rfl, skipBlank_literalChars]
  rfl

theorem memberChars_cons_append (key : String) (v : Json) (members : List (String × Json)) (r : List Char) :
    memberChars ((key, v) :: members) ++ r =
      quoted key.toList ++ ':' :: ' ' :: (literalChars v ++
        ((if members.isEmpty then [] else separator ++ memberChars members) ++ r)) := by
  simp [memberChars]

/-- Up to its value, an entry is read without spending fuel. -/
theorem readEntries_entry (key : String) (v : Json) (fuel : Nat) (r : List Char) :
    readEntries (fuel + 1) (quoted key.toList ++ ':' :: ' ' :: (literalChars v ++ r)) =
      (readValue fuel (literalChars v ++ r)).bind fun (v, r) =>
        match after? '}' r with
        | some r => some ([(key, v)], r)
        | none => (after? ',' r).bind fun r => (readEntries fuel r).bind fun (es, r) => some ((key, v) :: es, r) := by
  have hopen : after? '}' (quoted key.toList ++ ':' :: ' ' :: (literalChars v ++ r)) = none := rfl
  have hskip : skipBlank (quoted key.toList ++ ':' :: ' ' :: (literalChars v ++ r)) =
      quoted key.toList ++ ':' :: ' ' :: (literalChars v ++ r) := rfl
  rw [readEntries, hopen, hskip, readString_quoted]
  change (readValue fuel (skipBlank (literalChars v ++ r))).bind _ = _
  rw [skipBlank_literalChars]
  rfl

theorem length_literalChars_pos (v : Json) : 0 < (literalChars v).length := by
  obtain ⟨c, r, hcons, -⟩ := exists_literalChars_eq_cons v
  rw [hcons]
  exact Nat.succ_pos _

mutual

/-- A written value reads back, and what follows it is left. -/
theorem readValue_literalChars (v : Json) {rest : List Char} (hrest : Follows rest) {fuel : Nat}
    (hfuel : (literalChars v).length ≤ fuel) :
    readValue fuel (literalChars v ++ rest) = some (.ofJson v, rest) := by
  have hpos : 0 < fuel := Nat.lt_of_lt_of_le (length_literalChars_pos v) hfuel
  obtain ⟨fuel, rfl⟩ := Nat.exists_eq_add_one_of_ne_zero (Nat.ne_zero_of_lt hpos)
  cases v with
  | null => exact readName_append (w := "None") hrest (by decide) rfl
  | bool b =>
    cases b with
    | true => exact readName_append (w := "True") hrest (by decide) rfl
    | false => exact readName_append (w := "False") hrest (by decide) rfl
  | number n => exact readValue_number n hrest fuel
  | string s =>
    change (readString (quoted s.toList ++ rest)).map _ = _
    rw [readString_quoted]
    rfl
  | array items =>
    have hitems : (itemChars items).length < fuel := by simp [literalChars] at hfuel; omega
    change (readItems fuel (itemChars items ++ [']'] ++ rest)).map _ = _
    rw [List.append_assoc, List.singleton_append, readItems_itemChars items rest hitems]
    rfl
  | object members =>
    have hmembers : (memberChars members).length < fuel := by simp [literalChars] at hfuel; omega
    change (readEntries fuel (memberChars members ++ ['}'] ++ rest)).map _ = _
    rw [List.append_assoc, List.singleton_append, readEntries_memberChars members rest hmembers]
    rfl

theorem readItems_itemChars (items : List Json) (rest : List Char) {fuel : Nat}
    (hfuel : (itemChars items).length < fuel) :
    readItems fuel (itemChars items ++ ']' :: rest) = some (LiteralValue.ofItems items, rest) := by
  obtain ⟨fuel, rfl⟩ := Nat.exists_eq_add_one_of_ne_zero (Nat.ne_zero_of_lt hfuel)
  match items with
  | [] => rfl
  | [v] =>
    have hv : (literalChars v).length ≤ fuel := by simp [itemChars] at hfuel; omega
    have hfollows : Follows (']' :: rest) := by simp [Follows, enders]
    have hread := readValue_literalChars v hfollows hv
    rw [itemChars, List.isEmpty_nil, if_pos rfl, List.append_nil, readItems_item, hread]
    rfl
  | v :: w :: r =>
    simp [itemChars, separator] at hfuel
    have hv : (literalChars v).length ≤ fuel := by omega
    have hr : (itemChars (w :: r)).length < fuel := by simp [itemChars, separator]; omega
    have hfollows : Follows (separator ++ itemChars (w :: r) ++ ']' :: rest) := by simp [Follows, enders, separator]
    have hread := readValue_literalChars v hfollows hv
    have hnext := readItems_itemChars (w :: r) rest hr
    rw [itemChars, List.isEmpty_cons, if_neg Bool.false_ne_true, List.append_assoc, readItems_item, hread]
    change ((readItems fuel (' ' :: (itemChars (w :: r) ++ ']' :: rest))).bind _) = _
    rw [readItems_blank, hnext]
    rfl

theorem readEntries_memberChars (members : List (String × Json)) (rest : List Char) {fuel : Nat}
    (hfuel : (memberChars members).length < fuel) :
    readEntries fuel (memberChars members ++ '}' :: rest) = some (LiteralValue.ofMembers members, rest) := by
  obtain ⟨fuel, rfl⟩ := Nat.exists_eq_add_one_of_ne_zero (Nat.ne_zero_of_lt hfuel)
  match members with
  | [] => rfl
  | [(key, v)] =>
    have hv : (literalChars v).length ≤ fuel := by simp [memberChars] at hfuel; omega
    have hfollows : Follows ('}' :: rest) := by simp [Follows, enders]
    have hread := readValue_literalChars v hfollows hv
    rw [memberChars_cons_append, List.isEmpty_nil, if_pos rfl, readEntries_entry, List.nil_append, hread]
    rfl
  | (key, v) :: e :: r =>
    simp [memberChars, separator] at hfuel
    have hv : (literalChars v).length ≤ fuel := by omega
    have hr : (memberChars (e :: r)).length < fuel := by simp [memberChars, separator]; omega
    have hfollows : Follows (separator ++ memberChars (e :: r) ++ '}' :: rest) := by simp [Follows, enders, separator]
    have hread := readValue_literalChars v hfollows hv
    have hnext := readEntries_memberChars (e :: r) rest hr
    rw [memberChars_cons_append, List.isEmpty_cons, if_neg Bool.false_ne_true, readEntries_entry, hread]
    change ((readEntries fuel (' ' :: (memberChars (e :: r) ++ '}' :: rest))).bind _) = _
    rw [readEntries_blank, hnext]
    rfl

end

/-! ## Distinct values -/

mutual

def numbers : Json → List Json.Number
  | .number n => [n]
  | .array items => numbersOfItems items
  | .object members => numbersOfMembers members
  | _ => []

def numbersOfItems : List Json → List Json.Number
  | [] => []
  | v :: r => numbers v ++ numbersOfItems r

def numbersOfMembers : List (String × Json) → List Json.Number
  | [] => []
  | (_, v) :: r => numbers v ++ numbersOfMembers r

end

def ToldByText (ms ns : List Json.Number) : Prop := ∀ m ∈ ms, ∀ n ∈ ns, m.text = n.text → m = n

theorem ToldByText.left {ms ms' ns ns' : List Json.Number} (h : ToldByText (ms ++ ms') (ns ++ ns')) : ToldByText ms ns :=
  fun m hm n hn => h m (List.mem_append_left _ hm) n (List.mem_append_left _ hn)

theorem ToldByText.right {ms ms' ns ns' : List Json.Number} (h : ToldByText (ms ++ ms') (ns ++ ns')) :
    ToldByText ms' ns' :=
  fun m hm n hn => h m (List.mem_append_right _ hm) n (List.mem_append_right _ hn)

mutual

theorem LiteralValue.ofJson_inj {v w : Json} (hnumbers : ToldByText (numbers v) (numbers w))
    (h : ofJson v = ofJson w) : v = w := by
  match v, w with
  | .null, .null => rfl
  | .bool a, .bool b =>
    cases h
    rfl
  | .number m, .number n =>
    rw [hnumbers m (by simp [numbers]) n (by simp [numbers]) (by simpa [ofJson] using h)]
  | .string s, .string t =>
    cases h
    rfl
  | .array items, .array others =>
    rw [ofItems_inj (v := items) hnumbers (by simpa [ofJson] using h)]
  | .object members, .object others =>
    rw [ofMembers_inj hnumbers (by simpa [ofJson] using h)]

theorem LiteralValue.ofItems_inj {v w : List Json} (hnumbers : ToldByText (numbersOfItems v) (numbersOfItems w))
    (h : ofItems v = ofItems w) : v = w := by
  match v, w with
  | [], [] => rfl
  | v :: r, w :: s =>
    obtain ⟨hv, hr⟩ := List.cons.inj h
    rw [ofJson_inj hnumbers.left hv, ofItems_inj hnumbers.right hr]

theorem LiteralValue.ofMembers_inj {v w : List (String × Json)}
    (hnumbers : ToldByText (numbersOfMembers v) (numbersOfMembers w)) (h : ofMembers v = ofMembers w) : v = w := by
  match v, w with
  | [], [] => rfl
  | (key, v) :: r, (other, w) :: s =>
    obtain ⟨he, hr⟩ := List.cons.inj h
    obtain ⟨rfl, hv⟩ := Prod.mk.inj he
    rw [ofJson_inj hnumbers.left hv, ofMembers_inj hnumbers.right hr]

end

/-! ## Control characters -/

def ControlFree (l : List Char) : Prop := ∀ c ∈ l, isControl c = false

instance (l : List Char) : Decidable (ControlFree l) :=
  decidable_of_iff (l.all (fun c => !isControl c) = true) (by simp [ControlFree])

theorem ControlFree.append {a b : List Char} (ha : ControlFree a) (hb : ControlFree b) : ControlFree (a ++ b) :=
  List.forall_mem_append.mpr ⟨ha, hb⟩

theorem ControlFree.cons {l : List Char} (hc : isControl c = false) (hl : ControlFree l) : ControlFree (c :: l) :=
  List.forall_mem_cons.mpr ⟨hc, hl⟩

theorem isControl_of_isDigit (h : c.isDigit = true) : isControl c = false := by
  obtain ⟨h0, h9⟩ : 48 ≤ c.toNat ∧ c.toNat ≤ 57 := by
    simpa [Char.isDigit, UInt32.le_iff_toNat_le] using h
  simp only [isControl, inRanges, List.any_cons, List.any_nil, Bool.or_false, Bool.or_eq_false_iff,
    Bool.and_eq_false_iff, decide_eq_false_iff_not]
  omega

theorem isControl_of_isNumeric (h : isNumeric c = true) : isControl c = false := by
  have hcases : c.isDigit = true ∨ c ∈ ['+', '-', '.', 'e', 'E'] := by simpa [isNumeric] using h
  rcases hcases with hdigit | hother
  · exact isControl_of_isDigit hdigit
  · have hfree : ControlFree ['+', '-', '.', 'e', 'E'] := by decide
    exact hfree c hother

theorem isControl_digitChar {d : Nat} (h : d < 16) : isControl (Nat.digitChar d) = false := by
  revert d
  decide

theorem controlFree_hexEscape (h : isControl c = true) : ControlFree (hexEscape c) := by
  have hle := le_of_isControl h
  have hhigh : isControl (Nat.digitChar (c.toNat / 16)) = false := isControl_digitChar (by omega)
  have hlow : isControl (Nat.digitChar (c.toNat % 16)) = false := isControl_digitChar (by omega)
  exact .cons (by decide) (.cons (by decide) (.cons hhigh (.cons hlow (by decide))))

theorem controlFree_escapeChar (c : Char) : ControlFree (escapeChar c) := by
  unfold escapeChar
  split
  · decide
  split
  · decide
  split
  · decide
  split
  · decide
  split
  · decide
  split
  · next hcontrol => exact controlFree_hexEscape hcontrol
  · next hcontrol => exact .cons (by simpa using hcontrol) (by decide)

theorem controlFree_quoted (s : List Char) : ControlFree (quoted s) := by
  refine .append (.cons (by decide) fun d hd => ?_) (by decide)
  obtain ⟨c, -, hd⟩ := List.mem_flatMap.mp hd
  exact controlFree_escapeChar c d hd

mutual

/-- Control characters are written as escapes, so a literal has none. -/
theorem controlFree_literalChars (v : Json) : ControlFree (literalChars v) := by
  cases v with
  | null => exact (by decide : ControlFree "None".toList)
  | bool b =>
    cases b with
    | true => exact (by decide : ControlFree "True".toList)
    | false => exact (by decide : ControlFree "False".toList)
  | number n => exact fun c hc => isControl_of_isNumeric ((isNumeral_text n).numeric c hc)
  | string s => exact controlFree_quoted s.toList
  | array items => exact .cons (by decide) (.append (controlFree_itemChars items) (by decide))
  | object members => exact .cons (by decide) (.append (controlFree_memberChars members) (by decide))

theorem controlFree_itemChars (items : List Json) : ControlFree (itemChars items) := by
  match items with
  | [] => exact (by decide : ControlFree [])
  | v :: r =>
    refine .append (controlFree_literalChars v) ?_
    split
    · decide
    · exact .append (by decide) (controlFree_itemChars r)

theorem controlFree_memberChars (members : List (String × Json)) : ControlFree (memberChars members) := by
  match members with
  | [] => exact (by decide : ControlFree [])
  | (key, v) :: r =>
    have hvalue : ControlFree (':' :: ' ' :: literalChars v) :=
      .cons (by decide) (.cons (by decide) (controlFree_literalChars v))
    refine .append (.append (controlFree_quoted key.toList) hvalue) ?_
    split
    · decide
    · exact .append (by decide) (controlFree_memberChars r)

end

/-! ## Literals -/

/-- A literal reads back as what it was written for and leaves what follows it. So literals of different values differ
    as far as the texts of their numbers do, and none holds a control character or a line break. A string literal reads
    back as its string, whatever follows. -/
theorem literal_reads_back :
    (∀ (v : Json) (rest : List Char), Follows rest →
      readLiteral ((literal v).toList ++ rest) = some (LiteralValue.ofJson v, rest)) ∧
    (∀ v w : Json, LiteralValue.ofJson v ≠ LiteralValue.ofJson w → literal v ≠ literal w) ∧
    (∀ v w : Json, ToldByText (numbers v) (numbers w) → v ≠ w → literal v ≠ literal w) ∧
    (∀ (s : String) (rest : List Char), readString ((stringLiteral s).toList ++ rest) = some (s, rest)) ∧
    (∀ v : Json, ∀ c ∈ (literal v).toList, isControl c = false ∧ c ≠ '\n' ∧ c ≠ '\r') := by
  have hread (v : Json) (rest : List Char) (hrest : Follows rest) :
      readLiteral ((literal v).toList ++ rest) = some (LiteralValue.ofJson v, rest) := by
    rw [literal, String.toList_ofList]
    exact readValue_literalChars v hrest (by simp)
  have hsame (v w : Json) (h : literal v = literal w) : LiteralValue.ofJson v = LiteralValue.ofJson w := by
    have hv := hread v [] trivial
    rw [h, hread w [] trivial] at hv
    exact (Prod.mk.inj (Option.some.inj hv)).1.symm
  refine ⟨hread, fun v w => mt (hsame v w), fun v w hnumbers => mt fun h => ?_, ?_, ?_⟩
  · exact LiteralValue.ofJson_inj hnumbers (hsame v w h)
  · intro s rest
    rw [stringLiteral, String.toList_ofList]
    exact readString_quoted s rest
  · intro v c hc
    rw [literal, String.toList_ofList] at hc
    have hcontrol := controlFree_literalChars v c hc
    refine ⟨hcontrol, ?_, ?_⟩
    · rintro rfl
      cases hcontrol
    · rintro rfl
      cases hcontrol

def awkwardDefault : Json :=
  .object [("it\'s, \x7d", .array [.string "\\n\n\x7f]", .number (.integer (-25)), .null]), ("", .object [])]

theorem literal_reads_back_awkward :
    Follows ", size=None".toList ∧
      readLiteral ((literal awkwardDefault).toList ++ ", size=None".toList) =
        some (.dict [("it\'s, \x7d", .list [.string "\\n\n\x7f]", .number "-25", .none]), ("", .dict [])],
          ", size=None".toList) ∧
      ToldByText (numbers awkwardDefault) (numbers (.string "-25")) ∧
      awkwardDefault ≠ .string "-25" ∧ literal awkwardDefault ≠ literal (.string "-25") := by
  have hrest : Follows ", size=None".toList := by simp [Follows, enders]
  have htold : ToldByText (numbers awkwardDefault) (numbers (.string "-25")) := by simp [ToldByText, numbers]
  have hne : awkwardDefault ≠ .string "-25" := nofun
  exact ⟨hrest, literal_reads_back.1 _ _ hrest, htold, hne, literal_reads_back.2.2.1 _ _ htold hne⟩

end PlotTypes.Python

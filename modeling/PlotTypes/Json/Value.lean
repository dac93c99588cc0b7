/-
  PlotTypes.Json.Value — JSON documents as values.

  An object keeps its members in document order; `put` gives a member that is already
  there a new value in its old place, so keys stay unique. An integer is kept exactly;
  every other number is a signed 64-bit magnitude.
-/

import PlotTypes.Decimal.Shortest

namespace PlotTypes

inductive Json.Number where
  | integer (n : Int)
  | real (negative : Bool) (magnitude : Decimal.Binary64)
  deriving DecidableEq, Repr

inductive Json where
  | null
  | bool (b : Bool)
  | number (n : Json.Number)
  | string (s : String)
  | array (items : List Json)
  | object (members : List (String × Json))
  deriving Repr, Inhabited

namespace Json

abbrev Members := List (String × Json)

/-- The digits of an integer, or the shortest ones that read back. -/
def Number.text : Number → String
  | .integer n => String.ofList ((if n < 0 then ['-'] else []) ++ Nat.toDigits 10 n.natAbs)
  | .real negative magnitude => String.ofList ((if negative then ['-'] else []) ++ magnitude.shortest.text)

/-! ## Members -/

def Members.keys (m : Members) : List String := m.map (·.1)

def Members.get? (m : Members) (key : String) : Option Json := m.lookup key

def Members.put (key : String) (v : Json) : Members → Members
  | [] => [(key, v)]
  | (k, w) :: r => if k = key then (key, v) :: r else (k, w) :: Members.put key v r

theorem Members.mem_keys_put (key : String) (v : Json) (m : Members) (k : String) :
    k ∈ (Members.put key v m).keys ↔ k = key ∨ k ∈ m.keys := by
  induction m with
  | nil => simp [put, keys]
  | cons e r ih =>
    simp only [keys, put] at ih ⊢
    split
    · next h => simp [h]
    · simp only [List.map_cons, List.mem_cons, ih]
      exact ⟨fun h => h.elim (.inr ∘ .inl) (·.imp id .inr), fun h => by
        rcases h with h | h | h
        · exact .inr (.inl h)
        · exact .inl h
        · exact .inr (.inr h)⟩

theorem Members.nodup_keys_put (key : String) (v : Json) (m : Members) (h : m.keys.Nodup) :
    (Members.put key v m).keys.Nodup := by
  induction m with
  | nil => simp [put, keys]
  | cons e r ih =>
    simp only [keys, List.map_cons, List.nodup_cons] at h
    simp only [put]
    split
    · next he => subst he; simpa [keys] using h
    · next he =>
      simp only [keys, List.map_cons, List.nodup_cons]
      refine ⟨fun hm => ?_, ih h.2⟩
      rcases (Members.mem_keys_put key v r e.1).mp hm with hk | hk
      · exact he hk
      · exact h.1 hk

/-! ## Views -/

def members? : Json → Option Members
  | .object m => some m
  | _ => none

theorem members?_eq_some {j : Json} {m : Members} : j.members? = some m ↔ j = .object m := by
  cases j with
  | object n => simp [members?]
  | _ => simp [members?]

def string? : Json → Option String
  | .string s => some s
  | _ => none

theorem string?_eq_some {j : Json} {s : String} : j.string? = some s ↔ j = .string s := by
  cases j with
  | string t => simp [string?]
  | _ => simp [string?]

def bool? : Json → Option Bool
  | .bool b => some b
  | _ => none

def items? : Json → Option (List Json)
  | .array xs => some xs
  | _ => none

def integer? : Json → Option Int
  | .number (.integer n) => some n
  | _ => none

/-- A member of an object; nothing for any other value. -/
def get? (j : Json) (key : String) : Option Json := j.members?.bind (·.get? key)

end Json

end PlotTypes

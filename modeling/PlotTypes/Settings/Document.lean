/-
  PlotTypes.Settings.Document — settings read from a TOML document.

  A key that names a setting must hold a value of its type; every other key is ignored.
  A setting without a key has its standard value.
-/

import PlotTypes.Settings.Basic
import PlotTypes.Toml.Reader

namespace PlotTypes.Settings

def greatestWidth : Int := Int.pow 2 64 - 1

def width? (v : Toml) : Option Nat :=
  match v.integer? with
  | some n => if 0 ≤ n ∧ n ≤ greatestWidth then some n.toNat else none
  | none => none

def command? (v : Toml) : Option (List String) := v.items?.bind (·.mapM Toml.string?)

/-- The settings with one entry of a document taken in. -/
def set? (s : Settings) (key : String) (v : Toml) : Option Settings :=
  match key with
  | "package" => v.string?.map fun t => { s with packageName := t }
  | "section" => v.string?.map fun t => { s with sectionName := t }
  | "trace_base_class" => v.string?.map fun t => { s with classBase := t }
  | "facade_base_class" => v.string?.map fun t => { s with facadeBase := t }
  | "facade_class" => v.string?.map fun t => { s with facadeClass := t }
  | "method_prefix" => v.string?.map fun t => { s with methodPrefix := t }
  | "register_method" => v.string?.map fun t => { s with registerMethod := t }
  | "validator_alias_prefix" => v.string?.map fun t => { s with validatorPrefix := t }
  | "datatype_alias_prefix" => v.string?.map fun t => { s with datatypePrefix := t }
  | "max_line_width" => (width? v).map fun n => { s with lineWidth := n }
  | "formatter" => (command? v).map fun c => { s with formatter := some c }
  | _ => some s

def ofEntries? (entries : List (String × Toml)) : Option Settings :=
  entries.foldlM (fun s (key, v) => s.set? key v) standard

/-- The settings of a document's text; nothing when it is no TOML or a value has a wrong type. -/
def ofText? (text : String) : Option Settings := (Toml.read text).bind ofEntries?

end PlotTypes.Settings

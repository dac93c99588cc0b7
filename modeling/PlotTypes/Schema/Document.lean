/-
  PlotTypes.Schema.Document — attribute trees read from schema documents.

  The section `traces` holds the traces; each has an object `attributes` and perhaps a
  description under `meta`. In an object of attributes an entry is an attribute when its
  value is an object and its key does not start with an underscore. An attribute object

  - with a `valType` is a leaf, whatever else it holds;
  - else with `items` is an array container: the one entry of `items` is its element;
  - else is a compound, its entries being attributes in turn.

  The first fault in document order is the one reported, with the keys that lead to it.
-/

import PlotTypes.Schema.Node
import PlotTypes.Schema.Error

namespace PlotTypes.Schema

open PlotTypes.Python

def described (members : Json.Members) : Option String := (members.get? "description").bind Json.string?

def isHidden (key : String) : Bool := key.toList.head? == some '_'

def below (path key : String) : String := path ++ "." ++ key

/-- The leaf of an attribute object whose type tag is `tag`. -/
def leafOf (key tag : String) (members : Json.Members) : Node :=
  { Node.leaf key tag with
    arrayOk := ((members.get? "arrayOk").bind Json.bool?).getD false
    defaultValue := match members.get? "dflt" with
      | some v => literal v
      | none => noneLiteral
    description := described members }

/-- What an attribute object is, by the entries that decide it. -/
inductive Shape where
  | leaf (tag : String)
  | container (element : String) (members : Json.Members)
  | compound

def shapeOf (members : Json.Members) : Except ShapeFault Shape :=
  match members.get? "valType" with
  | some (.string tag) => .ok (.leaf tag)
  | some _ => .error .tagNotString
  | none =>
    match members.get? "items" with
    | none => .ok .compound
    | some (.object []) => .error .noItem
    | some (.object [(element, .object members)]) => .ok (.container element members)
    | some (.object [_]) => .error .itemNotObject
    | some (.object _) => .error .manyItems
    | some _ => .error .itemsNotObject

mutual

/-- The attributes among the entries of the object at `path`. -/
def attributesOf (path : String) : Json.Members → Except Error (List Node)
  | [] => .ok []
  | (key, v) :: r =>
    if isHidden key then attributesOf path r
    else
      match attributeOf (below path key) key v with
      | none => attributesOf path r
      | some (.error e) => .error e
      | some (.ok n) =>
        match attributesOf path r with
        | .error e => .error e
        | .ok ns => .ok (n :: ns)

/-- The attribute of the entry at `path`, if its value is an object. -/
def attributeOf (path key : String) : Json → Option (Except Error Node)
  | .object members =>
    match shapeOf members with
    | .error f => some (.error (.badShape path f))
    | .ok (.leaf tag) => some (.ok (leafOf key tag members))
    | .ok (.container element inner) =>
      some ((elementAttributesOf (below path element) members).map fun children =>
        { Node.element key element children with description := (described inner).or (described members) })
    | .ok .compound =>
      some ((attributesOf path members).map fun children =>
        { Node.compound key children with description := described members })
  | _ => none

/-- The attributes of the element of an array container, looked up among its entries. -/
def elementAttributesOf (path : String) : Json.Members → Except Error (List Node)
  | [] => .ok []
  | (key, v) :: r => if key = "items" then itemAttributesOf path v else elementAttributesOf path r

def itemAttributesOf (path : String) : Json → Except Error (List Node)
  | .object [(_, .object members)] => attributesOf path members
  | _ => .ok []

end

/-! ## Traces -/

def traceOf (name : String) (trace : Json) : Except Error Node :=
  match (trace.get? "attributes").bind Json.members? with
  | none => .error (.badShape name .noAttributes)
  | some members =>
    (attributesOf name members).map fun children =>
      { Node.compound name children with
        description := ((trace.get? "meta").bind (·.get? "description")).bind Json.string? }

def tracesOf : Json.Members → Except Error (List Node)
  | [] => .ok []
  | (name, trace) :: r =>
    match traceOf name trace with
    | .error e => .error e
    | .ok n => (tracesOf r).map (n :: ·)

/-- The attribute tree of a parsed document. -/
def ofJson (document : Json) : Except Error Node :=
  match (document.get? "traces").bind Json.members? with
  | none => .error (.missingSection "traces")
  | some traces => (tracesOf traces).map Node.root

/-- The attribute tree of a document's text. -/
def ofText (text : String) : Except Error Node :=
  match Json.read text with
  | .error f => .error (.malformed f)
  | .ok document => ofJson document

end PlotTypes.Schema

import PageCheck.Yaml.Node

/-!
# Reading YAML

A text is read as one value. Members of a mapping that is merged into another one stand before the
members of that one, which replace them.
-/

namespace PageCheck.Yaml

def isPrintable (c : Char) : Bool :=
  let n := c.toNat
  c == '\t' || c == '\n' || c == '\r' || (0x20 ≤ n && n ≤ 0x7E) || n == 0x85 ||
    (0xA0 ≤ n && n ≤ 0xD7FF) || (0xE000 ≤ n && n ≤ 0xFFFD) || 0x10000 ≤ n

def isKey : Value → Bool
  | .list _ => false
  | .set _ => false
  | .map _ => false
  | _ => true

/-- The number that a value counts as among keys. -/
def keyNumber? : Value → Option Int
  | .int n => some n
  | .bool b => some (if b then 1 else 0)
  | .real x => x.toInt?
  | _ => none

def sameKey (a b : Value) : Bool :=
  match a, b with
  | .text s, .text t => s == t
  | .null, .null => true
  | .bytes s, .bytes t => s == t
  | .brokenText s, .brokenText t => s == t
  | .date d, .date e => d == e
  | .moment m, .moment n => m.isSame n
  | .real x, .real y => x == y || (x.isZero && y.isZero)
  | _, _ => (keyNumber? a).isSome && keyNumber? a == keyNumber? b

/-- Put a member into a mapping: in place of one with the same key, or behind all others. -/
def insertMember (key value : Value) : List (Value × Value) → List (Value × Value)
  | [] => [(key, value)]
  | (k, v) :: rest =>
    if sameKey k key then (k, value) :: rest else (k, v) :: insertMember key value rest

/-- A mapping of members of which later ones replace earlier ones. -/
def collect (members : List (Value × Value)) : List (Value × Value) :=
  members.foldl (fun mapping (key, value) => insertMember key value mapping) []

/-- The members of a mapping: those merged into it and its own. -/
structure Members where
  merged : List (Value × Value)
  own : List (Value × Value)

def Members.all (m : Members) : List (Value × Value) := m.merged ++ m.own

mutual

/-- The text of a node that is read as a scalar: its own, or that of a mapping's standard member. -/
def Node.text? : Node → Option Text.Codes
  | .scalar _ text => some text
  | .list _ _ => none
  | .mapping _ entries => standardText? entries

def standardText? : List (Node × Node) → Option Text.Codes
  | [] => none
  | (key, value) :: rest => if key.kind = .standard then value.text? else standardText? rest

end

/-- The key that the mark of a standard member is. -/
def Node.standardKey (node : Node) : Except Fault Value :=
  match node.text? with
  | none => .error .malformed
  | some text => .ok (.ofText text)

mutual

def Node.value : Node → Except Fault Value
  | .scalar kind text => scalarValue kind text
  | .list kind items =>
    match kind with
    | .list => (itemValues items).map .list
    | .orderedMapping => (pairValues items).map .list
    | .pairs => (pairValues items).map .list
    | _ => .error .malformed
  | .mapping kind entries =>
    match kind with
    | .mapping => (memberValues entries).map fun members => .map (collect members.all)
    | .set => (memberValues entries).map fun members => .set ((collect members.all).map (·.1))
    | .time => .error (if (standardText? entries).isSome then .timeMembers else .malformed)
    | kind =>
      match standardText? entries with
      | none => .error .malformed
      | some text => scalarValue kind text

def itemValues : List Node → Except Fault (List Value)
  | [] => .ok []
  | item :: rest => do
    let value ← item.value
    let others ← itemValues rest
    return value :: others

/-- The items of a list of pairs, each a mapping with one member. -/
def pairValues : List Node → Except Fault (List Value)
  | [] => .ok []
  | .mapping _ [(key, value)] :: rest => do
    let key ← key.value
    let value ← value.value
    let others ← pairValues rest
    return .list [key, value] :: others
  | _ => .error .malformed

def mergedValues : Node → Except Fault (List (Value × Value))
  | .mapping _ entries => (memberValues entries).map Members.all
  | .list _ items => mergedItems items
  | .scalar _ _ => .error .malformed

/-- The members of mappings that are merged together; of these the first ones count most. -/
def mergedItems : List Node → Except Fault (List (Value × Value))
  | [] => .ok []
  | .mapping _ entries :: rest => do
    let members ← memberValues entries
    let others ← mergedItems rest
    return others ++ members.all
  | _ => .error .malformed

/-- The members of a mapping. One whose key is a mark for merging brings members of its own; a key that
is the mark of the standard member is a text. -/
def memberValues : List (Node × Node) → Except Fault Members
  | [] => .ok ⟨[], []⟩
  | (key, value) :: rest =>
    if key.kind = .merge then do
      let merged ← mergedValues value
      let others ← memberValues rest
      return { others with merged := merged ++ others.merged }
    else do
      let key ← if key.kind = .standard then key.standardKey else key.value
      if !isKey key then throw .malformed
      let value ← value.value
      let others ← memberValues rest
      return { others with own := (key, value) :: others.own }

end

/-- Read a text; an empty one has the value of nothing. -/
def read (text : String) : Except Fault Value := do
  let s := text.toList
  if !s.all isPrintable then throw .malformed
  match ← Node.ofTokens? (← tokens s) with
  | none => return .null
  | some node => node.value

end PageCheck.Yaml

import PageCheck.Yaml.Scalar
import PageCheck.Yaml.Token.Scan

/-!
# Nodes of YAML texts

The tokens of a text make one node: a scalar, or a list or mapping of nodes. A name that was given
to a node earlier stands for that node; inside the node itself it stands for an empty collection.
-/

namespace PageCheck.Yaml

inductive Node where
  | scalar (kind : Kind) (text : Text.Codes)
  | list (kind : Kind) (items : List Node)
  | mapping (kind : Kind) (entries : List (Node × Node))

def Node.kind : Node → Kind
  | scalar kind _ => kind
  | list kind _ => kind
  | mapping kind _ => kind

/-- What is read from: the tokens left, the nodes that have names, and the meaning of tag handles. -/
structure Source where
  tokens : List Token
  named : List (String × Node)
  handles : List (String × String)

abbrev Reading (α : Type) := Except Fault (α × Source)

namespace Source

def peek (s : Source) : Option Token := s.tokens.head?

def next (s : Source) : Source := { s with tokens := s.tokens.tail }

def stopsAt (s : Source) (tokens : List Token) : Bool :=
  match s.peek with
  | none => true
  | some t => tokens.contains t

def sees (s : Source) (token : Token) : Bool := s.peek == some token

def giveName (s : Source) (name : Option String) (node : Node) : Source :=
  match name with
  | none => s
  | some name => { s with named := (name, node) :: s.named }

end Source

structure Properties where
  name : Option String
  tag : Option String

namespace Properties

def isPresent (p : Properties) : Bool := p.name.isSome || p.tag.isSome

/-- Whether the kind of the node is left open. -/
def isOpen (p : Properties) : Bool := p.tag.isNone || p.tag == some "!"

def kind (p : Properties) (usual : Kind) : Kind :=
  if p.isOpen then usual else (p.tag.map Kind.ofTag).getD .unknown

def scalar (p : Properties) (text : Text.Codes) (plain : Bool) : Node :=
  let kind :=
    if (plain && p.tag.isNone) || p.tag == some "!" then Kind.ofPlain text
    else (p.tag.map Kind.ofTag).getD .text
  .scalar kind text

end Properties

def emptyNode : Node := .scalar .null []

def fullTag (s : Source) (handle : Option String) (suffix : String) : Except Fault String :=
  match handle with
  | none => .ok suffix
  | some handle =>
    match s.handles.find? (·.1 == handle) with
    | some (_, start) => .ok (start ++ suffix)
    | none => .error .malformed

/-- A tag and a name, in either order. -/
def properties (s : Source) : Reading Properties :=
  match s.tokens with
  | .anchor name :: .tag handle suffix :: _ =>
    (fullTag s handle suffix).map fun tag => (⟨some name, some tag⟩, s.next.next)
  | .tag handle suffix :: .anchor name :: _ =>
    (fullTag s handle suffix).map fun tag => (⟨some name, some tag⟩, s.next.next)
  | .anchor name :: _ => .ok (⟨some name, none⟩, s.next)
  | .tag handle suffix :: _ =>
    (fullTag s handle suffix).map fun tag => (⟨none, some tag⟩, s.next)
  | _ => .ok (⟨none, none⟩, s)

/-- Where a node stands: in a flow collection, as an entry of a block collection, or as the key or
value of a block mapping, where the entries of a list need no indentation. -/
inductive Context where
  | flow
  | block
  | member
deriving DecidableEq, Repr

mutual

/-- Read a node. The first argument bounds the depth of the rules in use. -/
def node : Nat → Context → Source → Reading Node
  | 0, _, _ => .error .malformed
  | n + 1, context, s =>
    match s.peek with
    | some (.alias name) =>
      match s.named.find? (·.1 == name) with
      | some (_, node) => .ok (node, s.next)
      | none => .error .malformed
    | _ =>
      match properties s with
      | .error e => .error e
      | .ok (p, s) =>
        if p.name.any fun name => s.named.any (·.1 == name) then .error .malformed
        else content n context p s

def content : Nat → Context → Properties → Source → Reading Node
  | 0, _, _, _ => .error .malformed
  | n + 1, context, p, s =>
    let collect (empty : Node) (read : Source → Reading Node) : Reading Node :=
      match read (s.next.giveName p.name empty) with
      | .error e => .error e
      | .ok (node, s) => .ok (node, s.giveName p.name node)
    let listKind := p.kind .list
    let mappingKind := p.kind .mapping
    match s.peek with
    | some .blockEntry =>
      if context = .member then
        match looseItems n (s.giveName p.name (.list listKind [])) with
        | .error e => .error e
        | .ok (items, s) => .ok (.list listKind items, s.giveName p.name (.list listKind items))
      else absent p s
    | some (.scalar text plain) =>
      let node := p.scalar text plain
      .ok (node, s.next.giveName p.name node)
    | some .flowSequenceStart => collect (.list listKind []) fun s =>
        (flowItems n true s).map fun (items, s) => (.list listKind items, s)
    | some .flowMappingStart => collect (.mapping mappingKind []) fun s =>
        (flowMembers n true s).map fun (entries, s) => (.mapping mappingKind entries, s)
    | some .blockSequenceStart =>
      if context = .flow then absent p s
      else collect (.list listKind []) fun s =>
        (blockItems n s).map fun (items, s) => (.list listKind items, s)
    | some .blockMappingStart =>
      if context = .flow then absent p s
      else collect (.mapping mappingKind []) fun s =>
        (blockMembers n s).map fun (entries, s) => (.mapping mappingKind entries, s)
    | _ => absent p s

def absent (p : Properties) (s : Source) : Reading Node :=
  if p.isPresent then
    let node := p.scalar [] p.isOpen
    .ok (node, s.giveName p.name node)
  else .error .malformed

/-- Read a node, unless one of some tokens shows that there is none. -/
def optional : Nat → Context → List Token → Source → Reading Node
  | 0, _, _, _ => .error .malformed
  | n + 1, context, ends, s => if s.stopsAt ends then .ok (emptyNode, s) else node n context s

def blockItems : Nat → Source → Reading (List Node)
  | 0, _ => .error .malformed
  | n + 1, s =>
    if s.sees .blockEntry then
      match optional n .block [.blockEntry, .blockEnd] s.next with
      | .error e => .error e
      | .ok (item, s) => (blockItems n s).map fun (items, s) => (item :: items, s)
    else if s.sees .blockEnd then .ok ([], s.next)
    else .error .malformed

/-- The entries of a sequence that is not indented itself. -/
def looseItems : Nat → Source → Reading (List Node)
  | 0, _ => .error .malformed
  | n + 1, s =>
    if s.sees .blockEntry then
      match optional n .block [.blockEntry, .key, .value, .blockEnd] s.next with
      | .error e => .error e
      | .ok (item, s) => (looseItems n s).map fun (items, s) => (item :: items, s)
    else .ok ([], s)

def blockMembers : Nat → Source → Reading (List (Node × Node))
  | 0, _ => .error .malformed
  | n + 1, s =>
    if s.sees .key then
      match optional n .member [.key, .value, .blockEnd] s.next with
      | .error e => .error e
      | .ok (key, s) =>
        let value := if s.sees .value then optional n .member [.key, .value, .blockEnd] s.next
          else .ok (emptyNode, s)
        match value with
        | .error e => .error e
        | .ok (value, s) => (blockMembers n s).map fun (entries, s) => ((key, value) :: entries, s)
    else if s.sees .blockEnd then .ok ([], s.next)
    else .error .malformed

/-- The comma before every item of a flow collection but the first. -/
def comma (first : Bool) (s : Source) : Except Fault Source :=
  if first then .ok s else if s.sees .flowEntry then .ok s.next else .error .malformed

/-- The items of a flow sequence up to its end. A key among them makes a mapping of its own. -/
def flowItems : Nat → Bool → Source → Reading (List Node)
  | 0, _, _ => .error .malformed
  | n + 1, first, s =>
    if s.sees .flowSequenceEnd then .ok ([], s.next)
    else match comma first s with
      | .error e => .error e
      | .ok s =>
        let item : Option (Reading Node) :=
          if s.sees .key then
            some (match optional n .flow [.value, .flowEntry, .flowSequenceEnd] s.next with
              | .error e => .error e
              | .ok (key, s) =>
                if s.sees .value then
                  (optional n .flow [.flowEntry, .flowSequenceEnd] s.next).map fun (value, s) =>
                    (.mapping .mapping [(key, value)], s)
                else .ok (.mapping .mapping [(key, emptyNode)], s))
          else if s.sees .flowSequenceEnd then none
          else some (node n .flow s)
        match item with
        | none => .ok ([], s.next)
        | some (.error e) => .error e
        | some (.ok (item, s)) =>
          (flowItems n false s).map fun (items, s) => (item :: items, s)

def flowMembers : Nat → Bool → Source → Reading (List (Node × Node))
  | 0, _, _ => .error .malformed
  | n + 1, first, s =>
    if s.sees .flowMappingEnd then .ok ([], s.next)
    else match comma first s with
      | .error e => .error e
      | .ok s =>
        let member : Option (Reading (Node × Node)) :=
          if s.sees .key then
            some (match optional n .flow [.value, .flowEntry, .flowMappingEnd] s.next with
              | .error e => .error e
              | .ok (key, s) =>
                if s.sees .value then
                  (optional n .flow [.flowEntry, .flowMappingEnd] s.next).map fun (value, s) =>
                    ((key, value), s)
                else .ok ((key, emptyNode), s))
          else if s.sees .flowMappingEnd then none
          else some ((node n .flow s).map fun (key, s) => ((key, emptyNode), s))
        match member with
        | none => .ok ([], s.next)
        | some (.error e) => .error e
        | some (.ok (member, s)) =>
          (flowMembers n false s).map fun (members, s) => (member :: members, s)

end

/-- The handles that every document knows. -/
def standardHandles : List (String × String) := [("!", "!"), ("!!", "tag:yaml.org,2002:")]

/-- Directives before a document: the handles they give, and the tokens behind them. -/
def directives (versioned : Bool) (handles : List (String × String)) :
    List Token → Except Fault (List (String × String) × List Token)
  | .directive isVersion handle :: rest =>
    if isVersion && versioned then .error .malformed
    else match handle with
      | none => directives (versioned || isVersion) handles rest
      | some (name, start) =>
        if handles.any (·.1 == name) then .error .malformed
        else directives (versioned || isVersion) ((name, start) :: handles) rest
  | tokens => .ok (handles, tokens)

/-- The tokens behind a document: only marks that end it may be left. -/
def endsDocument (tokens : List Token) : Bool := tokens.all (· == .documentEnd)

def Node.ofTokens? (tokens : List Token) : Except Fault (Option Node) :=
  let read (s : Source) : Except Fault (Option Node) :=
    match node (4 * tokens.length + 4) .block s with
    | .error e => .error e
    | .ok (node, s) => if endsDocument s.tokens then .ok (some node) else .error .malformed
  let isMark : Token → Bool
    | .directive .. => true
    | .documentStart => true
    | .documentEnd => true
    | _ => false
  match tokens with
  | [] => .ok none
  | first :: _ =>
    if !isMark first || first == .documentEnd then read ⟨tokens, [], standardHandles⟩
    else match directives false [] tokens with
      | .error e => .error e
      | .ok (handles, .documentStart :: rest) =>
        let known := handles ++ standardHandles
        if rest.head?.all isMark then
          if endsDocument rest then .ok (some emptyNode) else .error .malformed
        else read ⟨rest, [], known⟩
      | .ok _ => .error .malformed

end PageCheck.Yaml

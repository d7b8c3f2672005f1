import Runbook.Yaml.Lexer
import Runbook.Yaml.Tag

namespace Runbook.Yaml

inductive Node where
  | scalar (tag : Tag) (text : String)
  | sequence (tag : Tag) (items : List Node)
  | mapping (tag : Tag) (entries : List (Node × Node))
  /-- An alias of a list or mapping around it, `up` of these further out than the innermost one. -/
  | around (isMapping : Bool) (up : Nat)

namespace Node

instance : Inhabited Node := ⟨.scalar .null ""⟩

def empty : Node := .scalar .null ""

end Node

/-- What an anchor names: a node, or one that is still open. -/
inductive Anchored where
  | closed (n : Node)
  | open (isMapping : Bool)

/-- The tokens that are left, the anchors so far, and those of the nodes around, innermost first. -/
structure Composer where
  tokens : List Token
  anchors : List (String × Anchored)
  path : List (Option String)

abbrev Composed (α : Type) := Except ReadFault (α × Composer)

abbrev Handles := List (String × String)

structure Properties where
  anchor : Option String
  tag : Option String

namespace Composer

def defaultHandles : Handles := [("!", "!"), ("!!", Tag.stem)]

def unexpected (s : Composer) : ReadFault :=
  match s.tokens with
  | .bad f :: _ => f
  | _ => .malformed

def next (s : Composer) : Composer := { s with tokens := s.tokens.tail }

def at? (s : Composer) (ts : List Token) : Bool := s.tokens.head?.any (ts.contains ·)

/-- The name of a tag, or the fault that comes up where its handle stands for nothing. -/
def tagName (handles : Handles) (f : ReadFault) : Option String → String → Except ReadFault String
  | none, suffix => .ok suffix
  | some h, suffix =>
    match handles.find? (·.1 == h) with
    | some (_, stem) => .ok (stem ++ suffix)
    | none => .error f

def properties (handles : Handles) (s : Composer) : Composed Properties :=
  match s.tokens with
  | .anchor a :: .tag h suffix :: ts =>
    (tagName handles .malformed h suffix).map fun t => (⟨some a, some t⟩, { s with tokens := ts })
  | .anchor a :: ts => .ok (⟨some a, none⟩, { s with tokens := ts })
  | .tag h suffix :: .anchor a :: ts =>
    (tagName handles .malformed h suffix).map fun t => (⟨some a, some t⟩, { s with tokens := ts })
  | .tag h suffix :: ts =>
    (tagName handles (unexpected s.next) h suffix).map fun t => (⟨none, some t⟩, { s with tokens := ts })
  | _ => .ok (⟨none, none⟩, s)

def knows (s : Composer) (a : String) : Bool := s.anchors.any (·.1 == a)

def opensMapping (s : Composer) : Bool := s.at? [.flowMapping, .blockMapping]

/-- Into a node. An anchor may name one node only. -/
def openNode (a : Option String) (s : Composer) : Except ReadFault Composer :=
  let inside := { s with path := a :: s.path }
  match a with
  | none => .ok inside
  | some a =>
    if s.knows a then .error s.unexpected
    else .ok { inside with anchors := (a, .open s.opensMapping) :: s.anchors }

def closeNode (a : Option String) (n : Node) (s : Composer) : Composer :=
  let outside := { s with path := s.path.tail }
  match a with
  | none => outside
  | some a =>
    { outside with anchors := s.anchors.map fun e => if e.1 == a then (a, .closed n) else e }

def aliased (a : String) (s : Composer) : Composed Node :=
  match s.anchors.find? (·.1 == a) with
  | some (_, .closed n) => .ok (n, s)
  | some (_, .open isMapping) => .ok (.around isMapping (s.path.idxOf (some a)), s)
  | none => .error .malformed

def collectionTag (tag : Option String) (default : Tag) : Tag :=
  match tag with
  | none => default
  | some t => if t == "!" then default else Tag.ofName t

/-- A plain scalar without a tag has one by its form, as has any scalar with the tag `!`. -/
def scalarTag (p : Properties) (plain : Bool) (text : String) : Tag :=
  match p.tag with
  | some t => if t == "!" then Tag.ofPlain text else Tag.ofName t
  | none => if plain then Tag.ofPlain text else .str

mutual

/-- A node; `block` says whether it may be a block, and `indentless` whether it may be a sequence
that is not indented further than the mapping around it. -/
def node (h : Handles) : Nat → (block indentless : Bool) → Composer → Composed Node
  | 0, _, _, _ => .error .malformed
  | fuel + 1, block, indentless, s =>
    match s.tokens with
    | .alias a :: _ => s.next.aliased a
    | _ =>
      match s.properties h with
      | .error f => .error f
      | .ok (p, s) =>
        match s.openNode p.anchor with
        | .error f => .error f
        | .ok s =>
          match content h fuel block indentless p s with
          | .error f => .error f
          | .ok (n, s) => .ok (n, s.closeNode p.anchor n)

def content (h : Handles) : Nat → (block indentless : Bool) → Properties → Composer →
    Composed Node
  | 0, _, _, _, _ => .error .malformed
  | fuel + 1, block, indentless, p, s =>
    let sequence (r : Composed (List Node)) : Composed Node :=
      r.map fun r => (.sequence (collectionTag p.tag .seq) r.1, r.2)
    let mapping (r : Composed (List (Node × Node))) : Composed Node :=
      r.map fun r => (.mapping (collectionTag p.tag .map) r.1, r.2)
    match s.tokens with
    | .scalar plain text :: _ => .ok (.scalar (scalarTag p plain text) text, s.next)
    | .flowSequence :: _ => sequence (flowItems h fuel true s.next)
    | .flowMapping :: _ => mapping (flowEntries h fuel true s.next)
    | t :: _ =>
      if indentless && t == .blockEntry then sequence (indentlessItems h fuel s)
      else if block && t == .blockSequence then sequence (blockItems h fuel s.next)
      else if block && t == .blockMapping then mapping (blockEntries h fuel s.next)
      else if p.anchor.isSome || p.tag.isSome then .ok (.scalar (scalarTag p true "") "", s)
      else .error s.unexpected
    | [] =>
      if p.anchor.isSome || p.tag.isSome then .ok (.scalar (scalarTag p true "") "", s)
      else .error .malformed

def nodeUnless (h : Handles) : Nat → (block indentless : Bool) → List Token → Composer →
    Composed Node
  | 0, _, _, _, _ => .error .malformed
  | fuel + 1, block, indentless, ends, s =>
    if s.at? ends then .ok (.empty, s) else node h fuel block indentless s

def blockItems (h : Handles) : Nat → Composer → Composed (List Node)
  | 0, _ => .error .malformed
  | fuel + 1, s =>
    match s.tokens with
    | .blockEntry :: _ =>
      match nodeUnless h fuel true false [.blockEntry, .blockEnd] s.next with
      | .error f => .error f
      | .ok (n, s) => (blockItems h fuel s).map fun r => (n :: r.1, r.2)
    | .blockEnd :: _ => .ok ([], s.next)
    | _ => .error s.unexpected

def indentlessItems (h : Handles) : Nat → Composer → Composed (List Node)
  | 0, _ => .error .malformed
  | fuel + 1, s =>
    match s.tokens with
    | .blockEntry :: _ =>
      match nodeUnless h fuel true false [.blockEntry, .key, .value, .blockEnd] s.next with
      | .error f => .error f
      | .ok (n, s) => (indentlessItems h fuel s).map fun r => (n :: r.1, r.2)
    | _ => .ok ([], s)

def blockEntries (h : Handles) : Nat → Composer → Composed (List (Node × Node))
  | 0, _ => .error .malformed
  | fuel + 1, s =>
    let ends : List Token := [.key, .value, .blockEnd]
    match s.tokens with
    | .key :: _ =>
      match nodeUnless h fuel true true ends s.next with
      | .error f => .error f
      | .ok (k, s) =>
        let value : Composed Node :=
          match s.tokens with
          | .value :: _ => nodeUnless h fuel true true ends s.next
          | _ => .ok (.empty, s)
        match value with
        | .error f => .error f
        | .ok (v, s) => (blockEntries h fuel s).map fun r => ((k, v) :: r.1, r.2)
    | .blockEnd :: _ => .ok ([], s.next)
    | _ => .error s.unexpected

def flowValue (h : Handles) : Nat → List Token → Composer → Composed Node
  | 0, _, _ => .error .malformed
  | fuel + 1, ends, s =>
    match s.tokens with
    | .value :: _ => nodeUnless h fuel false false ends s.next
    | _ => .ok (.empty, s)

/-- The items up to the closing bracket. An item with a key is a mapping of one entry. -/
def flowItems (h : Handles) : Nat → Bool → Composer → Composed (List Node)
  | 0, _, _ => .error .malformed
  | fuel + 1, first, s =>
    if s.at? [.flowSequenceEnd] then .ok ([], s.next)
    else if !first && !s.at? [.flowEntry] then .error s.unexpected
    else
      let s := if first then s else s.next
      let item : Composed Node :=
        match s.tokens with
        | .key :: _ =>
          match nodeUnless h fuel false false [.value, .flowEntry, .flowSequenceEnd] s.next with
          | .error f => .error f
          | .ok (k, s) =>
            (flowValue h fuel [.flowEntry, .flowSequenceEnd] s).map fun r =>
              (.mapping .map [(k, r.1)], r.2)
        | _ => node h fuel false false s
      if s.at? [.flowSequenceEnd] then .ok ([], s.next)
      else
        match item with
        | .error f => .error f
        | .ok (n, s) => (flowItems h fuel false s).map fun r => (n :: r.1, r.2)

def flowEntries (h : Handles) : Nat → Bool → Composer → Composed (List (Node × Node))
  | 0, _, _ => .error .malformed
  | fuel + 1, first, s =>
    if s.at? [.flowMappingEnd] then .ok ([], s.next)
    else if !first && !s.at? [.flowEntry] then .error s.unexpected
    else
      let s := if first then s else s.next
      let ends : List Token := [.flowEntry, .flowMappingEnd]
      let entry : Composed (Node × Node) :=
        match s.tokens with
        | .key :: _ =>
          match nodeUnless h fuel false false (.value :: ends) s.next with
          | .error f => .error f
          | .ok (k, s) => (flowValue h fuel ends s).map fun r => ((k, r.1), r.2)
        | _ => (node h fuel false false s).map fun r => ((r.1, .empty), r.2)
      if s.at? [.flowMappingEnd] then .ok ([], s.next)
      else
        match entry with
        | .error f => .error f
        | .ok (e, s) => (flowEntries h fuel false s).map fun r => (e :: r.1, r.2)

end

/-- The handles that directives declare; a version and a handle may be declared once, and the version
has to be 1. -/
def directives : List Token → Bool → Handles → Except ReadFault (Handles × List Token)
  | .directive (.version major) :: ts, versioned, h =>
    if versioned || major != 1 then .error .malformed else directives ts true h
  | .directive (.tag handle stem) :: ts, versioned, h =>
    if h.any (·.1 == handle) then .error .malformed
    else directives ts versioned ((handle, stem) :: h)
  | .directive .other :: ts, versioned, h => directives ts versioned h
  | ts, _, h => .ok (h ++ defaultHandles, ts)

def fuelFor (ts : List Token) : Nat := 4 * ts.length + 8

/-- The one document that the tokens hold, if there is one. It ends with the tokens. -/
def document (ts : List Token) : Except ReadFault (Option Node) :=
  let finish (r : Composed Node) : Except ReadFault (Option Node) :=
    match r with
    | .error f => .error f
    | .ok (n, s) =>
      match s.tokens.dropWhile (· == .documentEnd) with
      | [] => .ok (some n)
      | .bad f :: _ => .error f
      | _ => .error .malformed
  let explicit (ts : List Token) : Except ReadFault (Option Node) :=
    match directives ts false [] with
    | .error f => .error f
    | .ok (h, .documentStart :: ts) =>
      match ts with
      | [] => .ok (some .empty)
      | .directive _ :: _ | .documentStart :: _ | .documentEnd :: _ => finish (.ok (.empty, ⟨ts, [], []⟩))
      | _ => finish (node h (fuelFor ts) true false ⟨ts, [], []⟩)
    | .ok (_, ts) => .error (unexpected ⟨ts, [], []⟩)
  match ts with
  | [] => .ok none
  | .directive _ :: _ | .documentStart :: _ => explicit ts
  | _ => finish (node defaultHandles (fuelFor ts) true false ⟨ts, [], []⟩)

end Composer

def Node.ofText (cs : List Char) : Except ReadFault (Option Node) :=
  Composer.document (Token.ofText cs)

end Runbook.Yaml

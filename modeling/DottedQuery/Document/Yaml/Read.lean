/-
# DottedQuery.Document.Yaml.Read -- reading YAML

The tokens of a text are put together to a tree. A scalar keeps its tag and whether it was
plain; an alias keeps the number of its anchor, and the nodes with anchors are collected
beside the tree, so that an anchor may be defined again or stand around its own alias. When
a token is missing or in the wrong place the tree ends in `broken`. In the end the aliases
are replaced by the nodes they stand for.
-/
import DottedQuery.Document.Yaml.Token
import DottedQuery.Document.Yaml.Tree
import DottedQuery.Document.Yaml.Word

namespace DottedQuery.Document.Yaml

/-! ## Progress through the tokens -/

/-- The tokens ahead and what is known of anchors and tags. -/
structure Progress where
  /-- The tokens ahead; none once the text has gone wrong. -/
  tokens : Option (List Token)
  /-- The expansions of tag handles. -/
  handles : List (String × String) := []
  /-- The number of each anchor's name. -/
  names : List (String × Nat) := []
  /-- The definition that each number refers to, the latest first. -/
  owners : List (Nat × Nat) := []
  /-- How many anchors have been defined. -/
  definitions : Nat := 0
  /-- The node of each definition. -/
  nodes : Anchors := []

namespace Progress

/-- The next token. -/
def head (p : Progress) : Token := ((p.tokens.bind List.head?)).getD .broken

/-- Passes a token. -/
def next (p : Progress) : Progress := { p with tokens := p.tokens.map List.tail }

/-- Gives up. -/
def fail (p : Progress) : Progress := { p with tokens := none }

/-- Whether the text has gone wrong. -/
def failed (p : Progress) : Bool := p.tokens.isNone

/-- Defines an anchor. A name is numbered by how many names there are when it is defined,
so that redefining one does not make room for another. -/
def define (p : Progress) (name : String) : Progress :=
  let number := p.names.length
  { p with
    names := (name, number) :: p.names.filter (·.1 ≠ name)
    owners := (number, p.definitions) :: p.owners
    definitions := p.definitions + 1 }

/-- Notes the node of a definition. -/
def record (p : Progress) (definition : Option Nat) (node : Tree) : Progress :=
  match definition with
  | none => p
  | some n => { p with nodes := (n, node) :: p.nodes }

/-- The nodes that anchor numbers stand for. -/
def anchors (p : Progress) : Anchors :=
  p.owners.map fun (number, definition) => (number, (p.nodes.lookup definition).getD .broken)

end Progress

/-- What has been read and where to go on. -/
abbrev Step (α : Type) := α × Progress

/-- A scalar that is not written at all. -/
def emptyWord : Tree := .word none true ""

/-! ## Properties of a node -/

/-- Anchor and tag of a node. -/
structure Properties where
  anchor : Option String := none
  tag : Option (String × String) := none

/-- The anchor and the tag ahead, in either order and at most one of each. -/
def properties (p : Progress) : Step Properties :=
  match p.head with
  | .anchor name =>
    match p.next.head with
    | .tag handle suffix => (⟨some name, some (handle, suffix)⟩, p.next.next)
    | _ => (⟨some name, none⟩, p.next)
  | .tag handle suffix =>
    match p.next.head with
    | .anchor name => (⟨some name, some (handle, suffix)⟩, p.next.next)
    | _ => (⟨none, some (handle, suffix)⟩, p.next)
  | _ => ({}, p)

/-- The tag that a handle and a suffix spell; none if the handle is unknown. -/
def expandTag (p : Progress) : Option (String × String) → Option (Option String)
  | none => some none
  | some (handle, suffix) =>
    if handle.isEmpty then some (some suffix)
    else (p.handles.lookup handle).map fun expansion => some (expansion ++ suffix)

/-! ## Nodes -/

/-- Tokens at which a member of a block mapping has no node. -/
def endsBlockMember (t : Token) : Bool := t = .key || t = .value || t = .blockEnd

mutual

/-- A node. `block` admits collections written by indentation, and `compact` a sequence
whose items stand at the column of the mapping around it. -/
def node : Nat → (block compact : Bool) → Progress → Step Tree
  | 0, _, _, p => (.broken, p.fail)
  | fuel + 1, block, compact, p =>
    match p.head with
    | .aliased name =>
      match p.names.lookup name with
      | some number => (.aliased number, p.next)
      | none => (.broken, p.fail)
    | _ =>
      let (given, p) := properties p
      match expandTag p given.tag with
      | none => (.broken, p.fail)
      | some tag =>
        let definition := given.anchor.map fun _ => p.definitions
        let define (p : Progress) : Progress :=
          match given.anchor with
          | some name => p.define name
          | none => p
        let collection (read : Step Tree) : Step Tree := (read.1, read.2.record definition read.1)
        match p.head with
        | .scalar plain text => collection (.word tag plain text, (define p).next)
        | .flowSequence =>
          let (items, p) := flowItems fuel true (define p).next
          collection (.list tag items, p)
        | .flowMapping =>
          let (members, p) := flowMembers fuel true (define p).next
          collection (.record tag members, p)
        | .broken => (.broken, p.fail)
        | token =>
          if compact && token = .blockEntry then
            let (items, p) := compactItems fuel (define p)
            collection (.list tag items, p)
          else if block && token = .blockSequence then
            let (items, p) := blockItems fuel (define p).next
            collection (.list tag items, p)
          else if block && token = .blockMapping then
            let (members, p) := blockMembers fuel (define p).next
            collection (.record tag members, p)
          else if given.anchor.isSome || given.tag.isSome then
            collection (.word tag true "", define p)
          else (.broken, p.fail)

/-- The items of a block sequence up to its end. -/
def blockItems : Nat → Progress → Step (List Tree)
  | 0, p => ([.broken], p.fail)
  | fuel + 1, p =>
    match p.head with
    | .blockEnd => ([], p.next)
    | .blockEntry =>
      let (item, p) :=
        if p.next.head = .blockEntry || p.next.head = .blockEnd then (emptyWord, p.next)
        else node fuel true false p.next
      if p.failed then ([item], p)
      else
        let (items, p) := blockItems fuel p
        (item :: items, p)
    | _ => ([.broken], p.fail)

/-- The items of a sequence at the column of the mapping around it. -/
def compactItems : Nat → Progress → Step (List Tree)
  | 0, p => ([.broken], p.fail)
  | fuel + 1, p =>
    match p.head with
    | .blockEntry =>
      let (item, p) :=
        if p.next.head = .blockEntry || endsBlockMember p.next.head then (emptyWord, p.next)
        else node fuel true false p.next
      if p.failed then ([item], p)
      else
        let (items, p) := compactItems fuel p
        (item :: items, p)
    | .broken => ([.broken], p.fail)
    | _ => ([], p)

/-- The members of a block mapping up to its end. -/
def blockMembers : Nat → Progress → Step (List (Tree × Tree))
  | 0, p => ([(.broken, .broken)], p.fail)
  | fuel + 1, p =>
    match p.head with
    | .blockEnd => ([], p.next)
    | .key =>
      let (key, p) :=
        if endsBlockMember p.next.head then (emptyWord, p.next) else node fuel true true p.next
      if p.failed then ([(key, .broken)], p)
      else
        let (value, p) :=
          match p.head with
          | .value =>
            if endsBlockMember p.next.head then (emptyWord, p.next)
            else node fuel true true p.next
          | .broken => (.broken, p.fail)
          | _ => (emptyWord, p)
        if p.failed then ([(key, value)], p)
        else
          let (members, p) := blockMembers fuel p
          ((key, value) :: members, p)
    | _ => ([(.broken, .broken)], p.fail)

/-- The items of a sequence in brackets; all but the first follow a comma. -/
def flowItems : Nat → Bool → Progress → Step (List Tree)
  | 0, _, p => ([.broken], p.fail)
  | fuel + 1, first, p =>
    let p' := if first then p else p.next
    if p.head = .flowSequenceEnd then ([], p.next)
    else if !first && p.head ≠ .flowEntry then ([.broken], p.fail)
    else if p'.head = .flowSequenceEnd then ([], p'.next)
    else
      let (item, p) :=
        if p'.head = .key then
          let (pair, p) := flowPair fuel p'.next
          (Tree.record none [pair], p)
        else node fuel false false p'
      if p.failed then ([item], p)
      else
        let (items, p) := flowItems fuel false p
        (item :: items, p)

/-- The only member of a mapping that is an item of a sequence in brackets. A missing key
takes the token in its place along. -/
def flowPair : Nat → Progress → Step (Tree × Tree)
  | 0, p => ((.broken, .broken), p.fail)
  | fuel + 1, p =>
    let ends (t : Token) : Bool := t = .flowEntry || t = .flowSequenceEnd
    let (key, p) :=
      if p.head = .value || ends p.head then (emptyWord, p.next) else node fuel false false p
    if p.failed then ((key, .broken), p)
    else
      match p.head with
      | .value =>
        if ends p.next.head then ((key, emptyWord), p.next)
        else
          let (value, p) := node fuel false false p.next
          ((key, value), p)
      | .broken => ((key, .broken), p.fail)
      | _ => ((key, emptyWord), p)

/-- The members of a mapping in braces; all but the first follow a comma. -/
def flowMembers : Nat → Bool → Progress → Step (List (Tree × Tree))
  | 0, _, p => ([(.broken, .broken)], p.fail)
  | fuel + 1, first, p =>
    let p' := if first then p else p.next
    let ends (t : Token) : Bool := t = .flowEntry || t = .flowMappingEnd
    if p.head = .flowMappingEnd then ([], p.next)
    else if !first && p.head ≠ .flowEntry then ([(.broken, .broken)], p.fail)
    else if p'.head = .flowMappingEnd then ([], p'.next)
    else
      let marked := p'.head = .key
      let (key, p) :=
        if marked && (p'.next.head = .value || ends p'.next.head) then (emptyWord, p'.next)
        else node fuel false false (if marked then p'.next else p')
      if p.failed then ([(key, .broken)], p)
      else
        let (value, p) :=
          match p.head with
          | .broken => (Tree.broken, p.fail)
          | .value =>
            if !marked then (emptyWord, p)
            else if ends p.next.head then (emptyWord, p.next)
            else node fuel false false p.next
          | _ => (emptyWord, p)
        if p.failed then ([(key, value)], p)
        else
          let (members, p) := flowMembers fuel false p
          ((key, value) :: members, p)

end

/-! ## Documents -/

/-- The handles that need no directive. -/
def defaultHandles : List (String × String) := [("!", "!"), ("!!", standardTag "")]

/-- Reads the directives before a document: at most one version, which has to be 1.1 or
1.2, and at most one expansion for each handle. -/
def directives : Nat → (versioned : Bool) → Progress → Progress
  | 0, _, p => p.fail
  | fuel + 1, versioned, p =>
    match p.head with
    | .version major minor =>
      if versioned || major ≠ 1 || (minor ≠ 1 && minor ≠ 2) then p.fail
      else directives fuel true p.next
    | .tagHandle handle expansion =>
      if (p.handles.lookup handle).isSome then p.fail
      else directives fuel versioned { p.next with handles := (handle, expansion) :: p.handles }
    | _ => p

/-- Tokens at which a document has no content. -/
def endsDocument : Token → Bool
  | .version _ _ | .tagHandle _ _ | .documentStart | .documentEnd | .streamEnd => true
  | _ => false

/-- The first document of the tokens, if there is any. -/
def firstDocument (fuel : Nat) (p : Progress) : Step (Option Tree) :=
  let content (p : Progress) : Step (Option Tree) :=
    let (root, p) := node fuel true false { p with handles := p.handles ++ defaultHandles }
    (some root, p)
  match p.head with
  | .streamEnd => (none, p)
  | .version _ _ | .tagHandle _ _ | .documentStart =>
    let p := directives fuel false p
    if p.head ≠ .documentStart then (some .broken, p.fail)
    else if endsDocument p.next.head then (some emptyWord, p.next)
    else content p.next
  | _ => content p

/-- Whether anything but ends of documents follows, or a fault. -/
def overruns (p : Progress) : Bool :=
  match p.tokens with
  | none => true
  | some tokens => (tokens.dropWhile (· = .documentEnd)).head? != some .streamEnd

/-- A whole text: its first document, and nothing after it. -/
def read (text : String) : Document :=
  let tokens := Token.all text.toList
  let (root, p) := firstDocument (3 * tokens.length + 8) { tokens := some tokens }
  { format := .yaml
    root := (root.map (Tree.expanded p.anchors)).getD .absent
    overrun := overruns p }

end DottedQuery.Document.Yaml

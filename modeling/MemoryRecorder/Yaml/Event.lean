import MemoryRecorder.Yaml.Token
/-!
# Events of a YAML stream

The parser reads tokens and produces the events of the YAML grammar: stream and document
boundaries, scalars, aliases, and the starts and ends of sequences and mappings. It is a state
machine with a stack of states to return to, one per open node, and a stack of the marks where
the open collections began, which error messages quote as context.

An empty node (a missing key or value, or a bare anchor) is an empty plain scalar. A block
sequence may sit directly under a mapping key without indentation; the parser reads it as an
*indentless* sequence that ends at the next token that is not an entry.

`Loader.firstDocument` collects the events of the first document the way a deserializer sees
them: without the boundary events, with anchors numbered, and with the syntax error (if any)
that cut the document short. An empty stream yields a single `void` event.
-/

namespace MemoryRecorder
namespace Yaml

inductive EventKind where
  | streamStart
  | streamEnd
  | documentStart (isImplicit : Bool)
  | documentEnd (isImplicit : Bool)
  | aliasNode (name : String)
  | scalar (anchor : Option String) (tag : Option String) (text : String) (style : Style)
  | sequenceStart (anchor : Option String) (tag : Option String) (flow : Bool)
  | sequenceEnd
  | mappingStart (anchor : Option String) (tag : Option String) (flow : Bool)
  | mappingEnd
  deriving DecidableEq, Repr

structure Event where
  kind : EventKind
  start : Mark
  stop : Mark
  deriving DecidableEq, Repr

/-- What the parser expects next. -/
inductive ParseState where
  | streamStart
  | implicitDocumentStart
  | documentStart
  | documentContent
  | documentEnd
  | blockNode
  | blockNodeOrIndentlessSequence
  | flowNode
  | blockSequenceFirstEntry
  | blockSequenceEntry
  | indentlessSequenceEntry
  | blockMappingFirstKey
  | blockMappingKey
  | blockMappingValue
  | flowSequenceFirstEntry
  | flowSequenceEntry
  | flowSequenceEntryMappingKey
  | flowSequenceEntryMappingValue
  | flowSequenceEntryMappingEnd
  | flowMappingFirstKey
  | flowMappingKey
  | flowMappingValue
  | flowMappingEmptyValue
  | finished
  deriving DecidableEq, Repr

structure Parser where
  scanner : Scanner
  state : ParseState := .streamStart
  states : List ParseState := []
  marks : List Mark := []
  tagHandles : List (String × String) := []
  deriving Repr

namespace Parser

def defaultHandles : List (String × String) :=
  [("!", "!"), ("!!", "tag:yaml.org,2002:")]

def peek (p : Parser) : Except SyntaxError (Token × Parser) :=
  match p.scanner.peekToken with
  | .error e => .error e
  | .ok (some t, s) => .ok (t, { p with scanner := s })
  | .ok (none, s) => .ok (⟨.streamEnd, s.mark, s.mark⟩, { p with scanner := s })

def drop (p : Parser) : Parser :=
  { p with scanner := p.scanner.dropToken }

def pop (p : Parser) : Parser :=
  match p.states with
  | s :: rest => { p with state := s, states := rest }
  | [] => { p with state := .finished }

def push (p : Parser) (s : ParseState) : Parser :=
  { p with states := s :: p.states }

def popMark (p : Parser) : Parser × Mark :=
  match p.marks with
  | m :: rest => ({ p with marks := rest }, m)
  | [] => (p, {})

def emptyScalar (m : Mark) : Event :=
  ⟨.scalar none none "" .plain, m, m⟩

def failIn (p : Parser) (context problem : String) (m : Mark) : SyntaxError :=
  { problem := problem, mark := m, context := some (context, (p.popMark).2) }

def isOneOf (t : Token) (ks : List TokenKind) : Bool :=
  ks.contains t.kind

/-- The directives before a document; the tag handles they declare, and the defaults. -/
def directives (p : Parser) : Nat → Bool → List (String × String) →
    Except SyntaxError (Parser × List (String × String))
  | 0, _, hs => .ok (p, hs ++ defaultHandles.filter fun d => !(hs.any (·.1 == d.1)))
  | n + 1, seenVersion, hs => do
      let (t, p) ← p.peek
      match t.kind with
      | .versionDirective major minor =>
          if seenVersion then throw { problem := "found duplicate %YAML directive", mark := t.start }
          if major != 1 || (minor != 1 && minor != 2) then
            throw { problem := "found incompatible YAML document", mark := t.start }
          directives p.drop n true hs
      | .tagDirective handle pfx =>
          if hs.any (·.1 == handle) then
            throw { problem := "found duplicate %TAG directive", mark := t.start }
          directives p.drop n seenVersion (hs ++ [(handle, pfx)])
      | _ => .ok (p, hs ++ defaultHandles.filter fun d => !(hs.any (·.1 == d.1)))

/-- A node: an alias, a scalar, the start of a collection, or (after an anchor or tag alone)
an empty scalar. -/
def node (p : Parser) (block indentless : Bool) : Except SyntaxError (Event × Parser) := do
  let (t, p) ← p.peek
  if let .aliasNode name := t.kind then
    return (⟨.aliasNode name, t.start, t.stop⟩, p.drop.pop)
  -- properties: an anchor and a tag, in either order
  let start := t.start
  let (anchor, tag, tagMark, stop, t, p) ← match t.kind with
    | .anchor a => do
        let p := p.drop
        let (t2, p) ← p.peek
        match t2.kind with
        | .tag h s => do
            let p := p.drop
            let (t3, p) ← p.peek
            pure (some a, some (h, s), t2.start, t2.stop, t3, p)
        | _ => pure (some a, none, start, t.stop, t2, p)
    | .tag h s => do
        let p := p.drop
        let (t2, p) ← p.peek
        match t2.kind with
        | .anchor a => do
            let p := p.drop
            let (t3, p) ← p.peek
            pure (some a, some (h, s), t.start, t2.stop, t3, p)
        | _ => pure (none, some (h, s), t.start, t.stop, t2, p)
    | _ => pure (none, none, start, start, t, p)
  let tag ← match tag with
    | none => pure none
    | some ("", suffix) => pure (some suffix)
    | some (handle, suffix) =>
        match p.tagHandles.find? (·.1 == handle) with
        | some (_, pfx) => pure (some (pfx ++ suffix))
        | none => throw { problem := "found undefined tag handle", mark := tagMark,
                          context := some ("while parsing a node", start) }
  if indentless && t.kind == .blockEntry then
    return (⟨.sequenceStart anchor tag false, start, t.stop⟩, { p with state := .indentlessSequenceEntry })
  match t.kind with
  | .scalar text style =>
      return (⟨.scalar anchor tag text style, start, t.stop⟩, p.drop.pop)
  | .flowSequenceStart =>
      return (⟨.sequenceStart anchor tag true, start, t.stop⟩, { p with state := .flowSequenceFirstEntry })
  | .flowMappingStart =>
      return (⟨.mappingStart anchor tag true, start, t.stop⟩, { p with state := .flowMappingFirstKey })
  | .blockSequenceStart =>
      if block then
        return (⟨.sequenceStart anchor tag false, start, t.stop⟩, { p with state := .blockSequenceFirstEntry })
      else throw (nodeError start t)
  | .blockMappingStart =>
      if block then
        return (⟨.mappingStart anchor tag false, start, t.stop⟩, { p with state := .blockMappingFirstKey })
      else throw (nodeError start t)
  | _ =>
      if anchor.isSome || tag.isSome then
        return (⟨.scalar anchor tag "" .plain, start, stop⟩, p.pop)
      else throw (nodeError start t)
where
  nodeError (start : Mark) (t : Token) : SyntaxError :=
    { problem := "did not find expected node content", mark := t.start,
      context := some (if block then "while parsing a block node" else "while parsing a flow node", start) }

def next (p : Parser) : Except SyntaxError (Event × Parser) := do
  match p.state with
  | .finished =>
      let (t, p) ← p.peek
      return (⟨.streamEnd, t.start, t.stop⟩, p)
  | .streamStart =>
      let (t, p) ← p.peek
      if t.kind != .streamStart then
        throw { problem := "did not find expected <stream-start>", mark := t.start }
      return (⟨.streamStart, t.start, t.stop⟩, { p.drop with state := .implicitDocumentStart })
  | .implicitDocumentStart | .documentStart =>
      let isImplicit := p.state == .implicitDocumentStart
      let (t, p) ← p.peek
      -- extra document end markers before an explicit document
      let (t, p) ← if isImplicit then pure (t, p) else skipEnds p.scanner.fuel t p
      let starts := [TokenKind.documentStart, TokenKind.streamEnd]
      let isDirective := match t.kind with
        | .versionDirective _ _ | .tagDirective _ _ => true
        | _ => false
      if isImplicit && !isDirective && !(starts.contains t.kind) then
        let p := { p with tagHandles := defaultHandles }
        return (⟨.documentStart true, t.start, t.start⟩,
          { (p.push .documentEnd) with state := .blockNode })
      else if t.kind != .streamEnd then
        let start := t.start
        let (p, handles) ← directives p p.scanner.fuel false []
        let (t, p) ← p.peek
        if t.kind != .documentStart then
          throw { problem := "did not find expected <document start>", mark := t.start }
        return (⟨.documentStart false, start, t.stop⟩,
          { (p.push .documentEnd).drop with state := .documentContent, tagHandles := handles })
      else
        return (⟨.streamEnd, t.start, t.stop⟩, { p.drop with state := .finished })
  | .documentContent =>
      let (t, p) ← p.peek
      match t.kind with
      | .versionDirective _ _ | .tagDirective _ _ | .documentStart | .documentEnd | .streamEnd =>
          return (emptyScalar t.start, p.pop)
      | _ => p.node true false
  | .documentEnd =>
      let (t, p) ← p.peek
      if t.kind == .documentEnd then
        return (⟨.documentEnd false, t.start, t.stop⟩, { p.drop with state := .documentStart })
      else
        return (⟨.documentEnd true, t.start, t.start⟩, { p with state := .documentStart })
  | .blockNode => p.node true false
  | .blockNodeOrIndentlessSequence => p.node true true
  | .flowNode => p.node false false
  | .blockSequenceFirstEntry | .blockSequenceEntry =>
      let p ← if p.state == .blockSequenceFirstEntry then do
          let (t, p) ← p.peek
          pure { p.drop with marks := t.start :: p.marks }
        else pure p
      let (t, p) ← p.peek
      match t.kind with
      | .blockEntry =>
          let m := t.stop
          let p := p.drop
          let (t, p) ← p.peek
          if t.kind != .blockEntry && t.kind != .blockEnd then
            (p.push .blockSequenceEntry).node true false
          else return (emptyScalar m, { p with state := .blockSequenceEntry })
      | .blockEnd =>
          let (p, _) := p.pop.popMark
          return (⟨.sequenceEnd, t.start, t.stop⟩, p.drop)
      | _ => throw (p.failIn "while parsing a block collection" "did not find expected '-' indicator" t.start)
  | .indentlessSequenceEntry =>
      let (t, p) ← p.peek
      if t.kind == .blockEntry then
        let m := t.stop
        let p := p.drop
        let (t, p) ← p.peek
        if !isOneOf t [.blockEntry, .key, .value, .blockEnd] then
          (p.push .indentlessSequenceEntry).node true false
        else return (emptyScalar m, { p with state := .indentlessSequenceEntry })
      else return (⟨.sequenceEnd, t.start, t.start⟩, p.pop)
  | .blockMappingFirstKey | .blockMappingKey =>
      let p ← if p.state == .blockMappingFirstKey then do
          let (t, p) ← p.peek
          pure { p.drop with marks := t.start :: p.marks }
        else pure p
      let (t, p) ← p.peek
      match t.kind with
      | .key =>
          let m := t.stop
          let p := p.drop
          let (t, p) ← p.peek
          if !isOneOf t [.key, .value, .blockEnd] then
            (p.push .blockMappingValue).node true true
          else return (emptyScalar m, { p with state := .blockMappingValue })
      | .blockEnd =>
          let (p, _) := p.pop.popMark
          return (⟨.mappingEnd, t.start, t.stop⟩, p.drop)
      | _ => throw (p.failIn "while parsing a block mapping" "did not find expected key" t.start)
  | .blockMappingValue =>
      let (t, p) ← p.peek
      if t.kind == .value then
        let m := t.stop
        let p := p.drop
        let (t, p) ← p.peek
        if !isOneOf t [.key, .value, .blockEnd] then
          (p.push .blockMappingKey).node true true
        else return (emptyScalar m, { p with state := .blockMappingKey })
      else return (emptyScalar t.start, { p with state := .blockMappingKey })
  | .flowSequenceFirstEntry | .flowSequenceEntry =>
      let first := p.state == .flowSequenceFirstEntry
      let p ← if first then do
          let (t, p) ← p.peek
          pure { p.drop with marks := t.start :: p.marks }
        else pure p
      let (t, p) ← p.peek
      let (t, p) ←
        if t.kind != .flowSequenceEnd && !first then
          if t.kind == .flowEntry then (p.drop).peek
          else throw (p.failIn "while parsing a flow sequence" "did not find expected ',' or ']'" t.start)
        else pure (t, p)
      match t.kind with
      | .flowSequenceEnd =>
          let (p, _) := p.pop.popMark
          return (⟨.sequenceEnd, t.start, t.stop⟩, p.drop)
      | .key =>
          return (⟨.mappingStart none none true, t.start, t.stop⟩,
            { p.drop with state := .flowSequenceEntryMappingKey })
      | _ => (p.push .flowSequenceEntry).node false false
  | .flowSequenceEntryMappingKey =>
      let (t, p) ← p.peek
      if !isOneOf t [.value, .flowEntry, .flowSequenceEnd] then
        (p.push .flowSequenceEntryMappingValue).node false false
      else return (emptyScalar t.start, { p with state := .flowSequenceEntryMappingValue })
  | .flowSequenceEntryMappingValue =>
      let (t, p) ← p.peek
      if t.kind == .value then
        let p := p.drop
        let (t, p) ← p.peek
        if !isOneOf t [.flowEntry, .flowSequenceEnd] then
          (p.push .flowSequenceEntryMappingEnd).node false false
        else return (emptyScalar t.start, { p with state := .flowSequenceEntryMappingEnd })
      else return (emptyScalar t.start, { p with state := .flowSequenceEntryMappingEnd })
  | .flowSequenceEntryMappingEnd =>
      let (t, p) ← p.peek
      return (⟨.mappingEnd, t.start, t.start⟩, { p with state := .flowSequenceEntry })
  | .flowMappingFirstKey | .flowMappingKey =>
      let first := p.state == .flowMappingFirstKey
      let p ← if first then do
          let (t, p) ← p.peek
          pure { p.drop with marks := t.start :: p.marks }
        else pure p
      let (t, p) ← p.peek
      let (t, p) ←
        if t.kind != .flowMappingEnd && !first then
          if t.kind == .flowEntry then (p.drop).peek
          else throw (p.failIn "while parsing a flow mapping" "did not find expected ',' or '\x7d'" t.start)
        else pure (t, p)
      match t.kind with
      | .flowMappingEnd =>
          let (p, _) := p.pop.popMark
          return (⟨.mappingEnd, t.start, t.stop⟩, p.drop)
      | .key =>
          let p := p.drop
          let (t, p) ← p.peek
          if !isOneOf t [.value, .flowEntry, .flowMappingEnd] then
            (p.push .flowMappingValue).node false false
          else return (emptyScalar t.start, { p with state := .flowMappingValue })
      | _ => (p.push .flowMappingEmptyValue).node false false
  | .flowMappingValue =>
      let (t, p) ← p.peek
      if t.kind == .value then
        let p := p.drop
        let (t, p) ← p.peek
        if !isOneOf t [.flowEntry, .flowMappingEnd] then
          (p.push .flowMappingKey).node false false
        else return (emptyScalar t.start, { p with state := .flowMappingKey })
      else return (emptyScalar t.start, { p with state := .flowMappingKey })
  | .flowMappingEmptyValue =>
      let (t, p) ← p.peek
      return (emptyScalar t.start, { p with state := .flowMappingKey })
where
  skipEnds : Nat → Token → Parser → Except SyntaxError (Token × Parser)
    | 0, t, p => .ok (t, p)
    | n + 1, t, p =>
        if t.kind == .documentEnd then
          match p.drop.peek with
          | .ok (t, p) => skipEnds n t p
          | .error e => .error e
        else .ok (t, p)

def ofString (text : String) : Parser :=
  { scanner := Scanner.ofString text }

end Parser

/-- A node event as a deserializer sees it: anchors replaced by numbers, aliases resolved to
the number of their anchor. -/
inductive NodeEvent where
  | aliasNode (target : Nat)
  | scalar (tag : Option String) (text : String) (style : Style)
  | sequenceStart (tag : Option String)
  | sequenceEnd
  | mappingStart (tag : Option String)
  | mappingEnd
  | void
  deriving DecidableEq, Repr

/-- Why a document could not be loaded completely. -/
inductive LoadError where
  | malformed (e : SyntaxError)
  | unknownAnchor (m : Mark)
  deriving DecidableEq, Repr

/-- A loaded document: its node events with their start marks, the event position of every
anchor by number, and the error that cut it short. -/
structure Document where
  events : Array (NodeEvent × Mark) := #[]
  anchors : List (Nat × Nat) := []
  error : Option LoadError := none
  deriving Repr

namespace Loader

/-- Collects events up to the end of a document, numbering anchors in order of appearance. -/
def collect : Nat → Parser → Document → List (String × Nat) → Bool → Option (Document × Parser)
  | 0, p, d, _, _ => some (d, p)
  | n + 1, p, d, names, first =>
      match p.next with
      | .error e => some ({ d with error := some (.malformed e) }, p)
      | .ok (e, p) =>
          let anchored (a : Option String) : Document × List (String × Nat) :=
            match a with
            | some name =>
                let id := names.length
                ({ d with anchors := d.anchors ++ [(id, d.events.size)] }, (name, id) :: names)
            | none => (d, names)
          match e.kind with
          | .streamStart | .documentStart _ => collect n p d names first
          | .streamEnd =>
              if first then
                let d := if d.events.isEmpty then { d with events := #[(.void, e.start)] } else d
                some (d, { p with state := .finished })
              else none
          | .documentEnd _ => some (d, p)
          | .aliasNode name =>
              match names.find? (·.1 == name) with
              | some (_, id) => collect n p { d with events := d.events.push (.aliasNode id, e.start) } names first
              | none => some ({ d with error := some (.unknownAnchor e.start) }, p)
          | .scalar a tag text style =>
              let (d, names) := anchored a
              collect n p { d with events := d.events.push (.scalar tag text style, e.start) } names first
          | .sequenceStart a tag _ =>
              let (d, names) := anchored a
              collect n p { d with events := d.events.push (.sequenceStart tag, e.start) } names first
          | .mappingStart a tag _ =>
              let (d, names) := anchored a
              collect n p { d with events := d.events.push (.mappingStart tag, e.start) } names first
          | .sequenceEnd => collect n p { d with events := d.events.push (.sequenceEnd, e.start) } names first
          | .mappingEnd => collect n p { d with events := d.events.push (.mappingEnd, e.start) } names first

/-- The first document of a text, and whether another document follows it. A reader error
(a character a document may not hold) stops the stream before its first event. -/
def firstDocument (text : String) : Document × Bool :=
  -- a byte order mark at the very start is not part of the text
  let (text, offset) := if text.startsWith "\uFEFF" then ((text.drop 1).toString, 3) else (text, 0)
  let bad := text.toList.findIdx? fun c => !isAllowed c
  match bad with
  | some i =>
      let bytes := (String.ofList (text.toList.take i)).utf8ByteSize + offset
      ({ error := some (.malformed { problem := "control characters are not allowed", offset := bytes }) }, false)
  | none =>
      let p := Parser.ofString text
      let fuel := 8 * (text.length + 8)
      match collect fuel p {} [] true with
      | none => ({}, false)
      | some (d, p) =>
          if d.error.isSome then (d, false)
          else
            match collect fuel p {} [] false with
            | none => (d, false)
            | some _ => (d, true)

end Loader

end Yaml
end MemoryRecorder

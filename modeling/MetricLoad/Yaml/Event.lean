import MetricLoad.Yaml.Lexer

/-!
# Events of a document

The tokens of a text are read into events: the scalars of a document in order, where its collections
begin and end, and references to anchored nodes.  The events in front of a fault are kept.

An anchor has a number, which is the count of names that were anchored before it.  A name that is
anchored once more takes a new number; a number that is given out twice stands for the later node.
-/

namespace MetricLoad.Yaml

/-- Why the text of a document cannot be read any further. -/
inductive LoadError
  | malformed (fault : SyntaxFault)
  | unknownAnchor (mark : Mark)
  | severalDocuments
  deriving DecidableEq, Repr

/-- The wording of an error. -/
def LoadError.message : LoadError → String
  | .malformed fault => fault.message
  | .unknownAnchor mark =>
    "unknown anchor" ++ (if mark.isStart then "" else " at " ++ mark.text)
  | .severalDocuments =>
    "deserializing from YAML containing more than one document is not supported"

/-- A step through a document. -/
inductive Event
  | scalar (mark : Mark) (tag : Option Tag) (style : ScalarStyle) (text : String)
  | sequenceStart (mark : Mark) (tag : Option Tag)
  | mappingStart (mark : Mark) (tag : Option Tag)
  /-- The end of a sequence or of a mapping. -/
  | collectionEnd
  /-- The node of the anchor with a number. -/
  | reference (mark : Mark) (number : Nat)
  deriving DecidableEq, Repr, Inhabited

/-- The state while tokens are read. -/
structure Composition where
  tokens : List Token
  /-- What is wrong behind the tokens. -/
  fault : Option SyntaxFault
  /-- The names of anchors with their numbers. -/
  anchors : List (String × Nat) := []
  /-- The numbers of anchors with the places of their events, the latest first. -/
  places : List (Nat × Nat) := []
  /-- The bytes that tag handles stand for. -/
  handles : List (String × List UInt8) := []
  events : Array Event := #[]

/-- A step of reading a document. -/
abbrev Compose := ExceptT LoadError (StateM Composition)

namespace Compose

/-- The next token. -/
def peek : Compose Token := do
  let s ← get
  match s.tokens, s.fault with
  | token :: _, _ => return token
  | [], some fault => throw (.malformed fault)
  | [], none => return ⟨.streamEnd, ⟨0, 0, 0⟩, ⟨0, 0, 0⟩⟩

/-- Moves over the next token. -/
def skip : Compose PUnit :=
  modify fun s => { s with tokens := s.tokens.drop 1 }

/-- Stops with a fault. -/
def fail {α : Type} (problem : Problem) (mark : Mark) (context : Option (Context × Mark)) :
    Compose α :=
  throw (.malformed ⟨problem, mark, context⟩)

/-- Adds an event. -/
def emit (event : Event) : Compose PUnit :=
  modify fun s => { s with events := s.events.push event }

/-- Adds the event of a scalar that is left out. -/
def emitEmpty (mark : Mark) : Compose PUnit :=
  emit (.scalar mark none .plain "")

/-- Names the node of the next event. -/
def declare (name : String) : Compose PUnit :=
  modify fun s => { s with
    anchors := (name, s.anchors.length) :: s.anchors.filter (·.1 != name)
    places := (s.anchors.length, s.events.size) :: s.places }

/-- Adds a reference to the node with a name. -/
def refer (name : String) (mark : Mark) : Compose PUnit := do
  match (← get).anchors.lookup name with
  | some number => emit (.reference mark number)
  | none => throw (.unknownAnchor mark)

/-- The tag with a handle and a suffix. -/
def tagOf (handle : String) (suffix : List UInt8) (start mark : Mark) : Compose Tag := do
  if handle.isEmpty then return ⟨suffix⟩
  match (← get).handles.lookup handle with
  | some stem => return ⟨stem ++ suffix⟩
  | none => fail .undefinedTagHandle mark (some (.node, start))

/-- The anchor and the tag in front of a node. -/
structure Properties where
  start : Mark
  anchor : Option String
  tag : Option Tag

/-- Reads an anchor and a tag in either order, each at most once. -/
def properties : Compose Properties := do
  let first ← peek
  let start := first.start
  match first.kind with
  | .anchor name =>
    skip
    let second ← peek
    match second.kind with
    | .tag handle suffix =>
      skip
      let _ ← peek
      return ⟨start, some name, some (← tagOf handle suffix start second.start)⟩
    | _ => return ⟨start, some name, none⟩
  | .tag handle suffix =>
    skip
    let second ← peek
    match second.kind with
    | .anchor name =>
      skip
      let _ ← peek
      return ⟨start, some name, some (← tagOf handle suffix start first.start)⟩
    | _ => return ⟨start, none, some (← tagOf handle suffix start first.start)⟩
  | _ => return ⟨start, none, none⟩

/-- Adds the event with which a node begins, under its anchor. -/
def emitAnchored (anchor : Option String) (event : Event) : Compose PUnit := do
  match anchor with
  | some name => declare name
  | none => pure ()
  emit event

/-- Adds an empty node with a tag or an anchor; without them a node is missing. -/
def bare (p : Properties) (token : Token) (block : Bool) : Compose PUnit :=
  if p.anchor.isSome || p.tag.isSome then
    emitAnchored p.anchor (.scalar p.start p.tag .plain "")
  else
    fail .noNodeContent token.start (some (if block then .blockNode else .flowNode, p.start))

mutual

/-- Reads a node.  Block collections are read only where they may stand, and a sequence without
indentation only as part of a mapping. -/
def node : Nat → (block indentless : Bool) → Compose PUnit
  | 0, _, _ => fail .endOfStream ⟨0, 0, 0⟩ none
  | fuel + 1, block, indentless => do
    let first ← peek
    match first.kind with
    | .alias name =>
      refer name first.start
      skip
    | _ =>
      let p ← properties
      let token ← peek
      match token.kind with
      | .blockEntry =>
        if indentless then
          emitAnchored p.anchor (.sequenceStart p.start p.tag)
          indentlessItems fuel
        else bare p token block
      | .scalar style text =>
        emitAnchored p.anchor (.scalar p.start p.tag style text)
        skip
      | .flowSequenceStart =>
        emitAnchored p.anchor (.sequenceStart p.start p.tag)
        skip
        flowItems fuel token.start true
      | .flowMappingStart =>
        emitAnchored p.anchor (.mappingStart p.start p.tag)
        skip
        flowEntries fuel token.start true
      | .blockSequenceStart =>
        if block then
          emitAnchored p.anchor (.sequenceStart p.start p.tag)
          skip
          blockItems fuel token.start
        else bare p token block
      | .blockMappingStart =>
        if block then
          emitAnchored p.anchor (.mappingStart p.start p.tag)
          skip
          blockEntries fuel token.start
        else bare p token block
      | _ => bare p token block

/-- Reads a node of a block collection behind the end of a token, unless the next token shows that
it is left out. -/
def blockPart (stops : TokenKind → Bool) (stop : Mark) :
    Nat → (indentless : Bool) → Compose PUnit
  | 0, _ => fail .endOfStream stop none
  | fuel + 1, indentless => do
    if stops (← peek).kind then emitEmpty stop
    else node fuel true indentless

/-- Reads a node of a flow collection, unless the next token shows that it is left out. -/
def flowPart (stops : TokenKind → Bool) : Nat → Compose PUnit
  | 0 => fail .endOfStream ⟨0, 0, 0⟩ none
  | fuel + 1 => do
    let token ← peek
    if stops token.kind then emitEmpty token.start
    else node fuel false false

/-- Reads the items of a block sequence up to its end. -/
def blockItems : Nat → (start : Mark) → Compose PUnit
  | 0, start => fail .endOfStream start none
  | fuel + 1, start => do
    let token ← peek
    match token.kind with
    | .blockEntry =>
      skip
      blockPart (fun k => k == .blockEntry || k == .blockEnd) token.stop fuel false
      blockItems fuel start
    | .blockEnd =>
      emit .collectionEnd
      skip
    | _ => fail .noDash token.start (some (.blockCollection, start))

/-- Reads the items of a sequence whose dashes stand in the column of the keys around it. -/
def indentlessItems : Nat → Compose PUnit
  | 0 => fail .endOfStream ⟨0, 0, 0⟩ none
  | fuel + 1 => do
    let token ← peek
    match token.kind with
    | .blockEntry =>
      skip
      let stops := fun k => k == .blockEntry || k == .key || k == .value || k == .blockEnd
      blockPart stops token.stop fuel false
      indentlessItems fuel
    | _ => emit .collectionEnd

/-- Reads the entries of a block mapping up to its end. -/
def blockEntries : Nat → (start : Mark) → Compose PUnit
  | 0, start => fail .endOfStream start none
  | fuel + 1, start => do
    let stops := fun k => k == TokenKind.key || k == .value || k == .blockEnd
    let token ← peek
    match token.kind with
    | .key =>
      skip
      blockPart stops token.stop fuel true
      blockValue fuel
      blockEntries fuel start
    | .blockEnd =>
      emit .collectionEnd
      skip
    | _ => fail .noKey token.start (some (.blockMapping, start))

/-- Reads the value of an entry of a block mapping; it may be left out. -/
def blockValue : Nat → Compose PUnit
  | 0 => fail .endOfStream ⟨0, 0, 0⟩ none
  | fuel + 1 => do
    let stops := fun k => k == TokenKind.key || k == .value || k == .blockEnd
    let token ← peek
    match token.kind with
    | .value =>
      skip
      blockPart stops token.stop fuel true
    | _ => emitEmpty token.start

/-- Reads the items of a flow sequence up to its bracket.  An item may be a single entry of a
mapping. -/
def flowItems : Nat → (start : Mark) → (first : Bool) → Compose PUnit
  | 0, start, _ => fail .endOfStream start none
  | fuel + 1, start, first => do
    let separator ← peek
    if separator.kind != .flowSequenceEnd && !first then
      if separator.kind == .flowEntry then skip
      else fail .noCommaOrBracket separator.start (some (.flowSequence, start))
    let token ← peek
    match token.kind with
    | .key =>
      emit (.mappingStart token.start none)
      skip
      singleEntry fuel
      flowItems fuel start false
    | .flowSequenceEnd =>
      emit .collectionEnd
      skip
    | _ =>
      node fuel false false
      flowItems fuel start false

/-- Reads an entry of a mapping that stands as an item of a flow sequence.  A colon without a key is
taken for the key. -/
def singleEntry : Nat → Compose PUnit
  | 0 => fail .endOfStream ⟨0, 0, 0⟩ none
  | fuel + 1 => do
    let ends := fun k => k == TokenKind.flowEntry || k == .flowSequenceEnd
    let token ← peek
    if token.kind == .value || ends token.kind then
      skip
      emitEmpty token.stop
    else node fuel false false
    flowValue ends fuel
    let _ ← peek
    emit .collectionEnd

/-- Reads the entries of a flow mapping up to its brace. -/
def flowEntries : Nat → (start : Mark) → (first : Bool) → Compose PUnit
  | 0, start, _ => fail .endOfStream start none
  | fuel + 1, start, first => do
    let separator ← peek
    if separator.kind != .flowMappingEnd && !first then
      if separator.kind == .flowEntry then skip
      else fail .noCommaOrBrace separator.start (some (.flowMapping, start))
    let token ← peek
    let ends := fun k => k == TokenKind.flowEntry || k == .flowMappingEnd
    match token.kind with
    | .key =>
      skip
      flowPart (fun k => k == .value || ends k) fuel
      flowValue ends fuel
      flowEntries fuel start false
    | .flowMappingEnd =>
      emit .collectionEnd
      skip
    | _ =>
      node fuel false false
      emitEmpty (← peek).start
      flowEntries fuel start false

/-- Reads the value of an entry of a flow collection; it may be left out. -/
def flowValue (ends : TokenKind → Bool) : Nat → Compose PUnit
  | 0 => fail .endOfStream ⟨0, 0, 0⟩ none
  | fuel + 1 => do
    let token ← peek
    match token.kind with
    | .value =>
      skip
      flowPart ends fuel
    | _ => emitEmpty token.start

end

/-- Adds a tag handle; a directive must not define one again. -/
def defineHandle (handle : String) (stem : List UInt8) (mark : Mark) : Compose PUnit := do
  let s ← get
  if s.handles.any fun (h, _) => h == handle then fail .duplicateTagHandle mark none
  else set { s with handles := s.handles ++ [(handle, stem)] }

/-- Adds the handles that every document knows, unless directives define them. -/
def defaultHandles : Compose PUnit :=
  modify fun s =>
    let known := fun handle => s.handles.any fun (h, _) => h == handle
    let primary := if known "!" then [] else [("!", [0x21])]
    let secondary := if known "!!" then [] else [("!!", Tag.standardStem)]
    { s with handles := s.handles ++ primary ++ secondary }

/-- Reads the directives in front of a document. -/
def directives : Nat → (versioned : Bool) → Compose PUnit
  | 0, _ => pure ()
  | fuel + 1, versioned => do
    let token ← peek
    match token.kind with
    | .versionDirective major minor =>
      if versioned then fail .duplicateVersion token.start none
      if major != 1 || (minor != 1 && minor != 2) then
        fail .incompatibleVersion token.start none
      skip
      directives fuel true
    | .tagDirective handle stem =>
      defineHandle handle stem token.start
      skip
      directives fuel versioned
    | _ => pure ()

/-- Reads the content of a document behind its marker; it may be left out. -/
def content (fuel : Nat) : Compose PUnit := do
  let token ← peek
  match token.kind with
  | .versionDirective .. | .tagDirective .. | .documentStart | .documentEnd | .streamEnd =>
    emitEmpty token.start
  | _ => node fuel true false

/-- Moves over the markers that end a document. -/
def skipEnds : Nat → Compose PUnit
  | 0 => pure ()
  | fuel + 1 => do
    if (← peek).kind == .documentEnd then
      skip
      skipEnds fuel

/-- Makes sure that nothing stands behind the document; even what cannot be read counts. -/
def nothingElse (fuel : Nat) : Compose PUnit := do
  let isLast ← tryCatch
    (do
      skipEnds fuel
      return (← peek).kind == .streamEnd)
    (fun _ => return false)
  if !isLast then throw .severalDocuments

/-- Reads the document of a text.  A blank text has an empty node. -/
def document (fuel : Nat) : Compose PUnit := do
  let token ← peek
  match token.kind with
  | .streamEnd => emitEmpty token.start
  | .versionDirective .. | .tagDirective .. | .documentStart =>
    directives fuel false
    defaultHandles
    let token ← peek
    if token.kind != .documentStart then fail .noDocumentStart token.start none
    skip
    content fuel
  | _ =>
    defaultHandles
    node fuel true false
  if (← peek).kind == .documentEnd then skip
  nothingElse fuel

end Compose

/-- The events of a text, and what is wrong behind them. -/
structure EventRun where
  events : List Event
  /-- The numbers of anchors with the places of their events, the latest first. -/
  places : List (Nat × Nat)
  error : Option LoadError

/-- The events of the document of a text. -/
def events (text : String) : EventRun :=
  let (tokens, fault) := tokens text
  let (result, s) := (Compose.document (4 * tokens.length + 8)).run.run { tokens, fault }
  ⟨s.events.toList, s.places, match result with
    | .error e => some e
    | .ok _ => none⟩

end MetricLoad.Yaml

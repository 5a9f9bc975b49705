import MetricLoad.Yaml.Cursor

/-!
# What can be wrong with a YAML text

A problem is what was found, and a context is what was being read.  The description gives the
problem with its position and then the context, with its own position where it differs.
-/

namespace MetricLoad.Yaml

/-- What is wrong at a place. -/
inductive Problem
  | controlCharacter
  | noToken
  | noColonAfterKey
  | entryNotAllowed
  | keyNotAllowed
  | valueNotAllowed
  | unknownDirective
  | noCommentOrBreak
  | noDirectiveName
  | badDirectiveName
  | noDigitOrPoint
  | longVersionNumber
  | noVersionNumber
  | noBlank
  | noBlankOrBreak
  | noWordChar
  | noVerbatimEnd
  | noExclamation
  | noTagText
  | noEscapedOctet
  | badLeadingOctet
  | badTrailingOctet
  | zeroIndentation
  | tabInIndentation
  | documentMarker
  | endOfStream
  | unknownEscape
  | noHexNumber
  | badEscapeCode
  | unexpectedColon
  | tabViolatesIndentation
  | noDocumentStart
  | duplicateVersion
  | incompatibleVersion
  | duplicateTagHandle
  | undefinedTagHandle
  | noNodeContent
  | noDash
  | noKey
  | noCommaOrBracket
  | noCommaOrBrace
  deriving DecidableEq, Repr

/-- The wording of a problem. -/
def Problem.text : Problem → String
  | controlCharacter => "control characters are not allowed"
  | noToken => "found character that cannot start any token"
  | noColonAfterKey => "could not find expected ':'"
  | entryNotAllowed => "block sequence entries are not allowed in this context"
  | keyNotAllowed => "mapping keys are not allowed in this context"
  | valueNotAllowed => "mapping values are not allowed in this context"
  | unknownDirective => "found unknown directive name"
  | noCommentOrBreak => "did not find expected comment or line break"
  | noDirectiveName => "could not find expected directive name"
  | badDirectiveName => "found unexpected non-alphabetical character"
  | noDigitOrPoint => "did not find expected digit or '.' character"
  | longVersionNumber => "found extremely long version number"
  | noVersionNumber => "did not find expected version number"
  | noBlank => "did not find expected whitespace"
  | noBlankOrBreak => "did not find expected whitespace or line break"
  | noWordChar => "did not find expected alphabetic or numeric character"
  | noVerbatimEnd => "did not find the expected '>'"
  | noExclamation => "did not find expected '!'"
  | noTagText => "did not find expected tag URI"
  | noEscapedOctet => "did not find URI escaped octet"
  | badLeadingOctet => "found an incorrect leading UTF-8 octet"
  | badTrailingOctet => "found an incorrect trailing UTF-8 octet"
  | zeroIndentation => "found an indentation indicator equal to 0"
  | tabInIndentation => "found a tab character where an indentation space is expected"
  | documentMarker => "found unexpected document indicator"
  | endOfStream => "found unexpected end of stream"
  | unknownEscape => "found unknown escape character"
  | noHexNumber => "did not find expected hexadecimal number"
  | badEscapeCode => "found invalid Unicode character escape code"
  | unexpectedColon => "found unexpected ':'"
  | tabViolatesIndentation => "found a tab character that violates indentation"
  | noDocumentStart => "did not find expected <document start>"
  | duplicateVersion => "found duplicate %YAML directive"
  | incompatibleVersion => "found incompatible YAML document"
  | duplicateTagHandle => "found duplicate %TAG directive"
  | undefinedTagHandle => "found undefined tag handle"
  | noNodeContent => "did not find expected node content"
  | noDash => "did not find expected '-' indicator"
  | noKey => "did not find expected key"
  | noCommaOrBracket => "did not find expected ',' or ']'"
  | noCommaOrBrace => "did not find expected ',' or '\x7d'"

/-- What was being read when a problem was found. -/
inductive Context
  | nextToken
  | simpleKey
  | directive
  | versionDirective
  | tagDirective
  | tagDirectiveHandle
  | tagDirectiveHandleEnd
  | tagDirectiveText
  | anchorName
  | aliasName
  | tag
  | tagText
  | blockScalar
  | quotedScalar
  | quotedEscape
  | plainScalar
  | node
  | blockNode
  | flowNode
  | blockCollection
  | blockMapping
  | flowSequence
  | flowMapping
  deriving DecidableEq, Repr

/-- The wording of a context. -/
def Context.text : Context → String
  | nextToken => "while scanning for the next token"
  | simpleKey => "while scanning a simple key"
  | directive => "while scanning a directive"
  | versionDirective => "while scanning a %YAML directive"
  | tagDirective => "while scanning a %TAG directive"
  | tagDirectiveHandle => "while scanning a tag directive"
  | tagDirectiveHandleEnd => "while parsing a tag directive"
  | tagDirectiveText => "while parsing a %TAG directive"
  | anchorName => "while scanning an anchor"
  | aliasName => "while scanning an alias"
  | tag => "while scanning a tag"
  | tagText => "while parsing a tag"
  | blockScalar => "while scanning a block scalar"
  | quotedScalar => "while scanning a quoted scalar"
  | quotedEscape => "while parsing a quoted scalar"
  | plainScalar => "while scanning a plain scalar"
  | node => "while parsing a node"
  | blockNode => "while parsing a block node"
  | flowNode => "while parsing a flow node"
  | blockCollection => "while parsing a block collection"
  | blockMapping => "while parsing a block mapping"
  | flowSequence => "while parsing a flow sequence"
  | flowMapping => "while parsing a flow mapping"

/-- A problem with its place and its context. -/
structure SyntaxFault where
  problem : Problem
  mark : Mark
  context : Option (Context × Mark)
  deriving DecidableEq, Repr

/-- The description of a fault. -/
def SyntaxFault.message (f : SyntaxFault) : String :=
  let place :=
    if !f.mark.isStart then " at " ++ f.mark.text
    else if f.problem = .controlCharacter && f.mark.index != 0 then
      " at position " ++ toString f.mark.index
    else ""
  let context := match f.context with
    | none => ""
    | some (context, mark) =>
      ", " ++ context.text ++
        (if !mark.isStart && (mark.line != f.mark.line || mark.column != f.mark.column) then
          " at " ++ mark.text
        else "")
  f.problem.text ++ place ++ context

end MetricLoad.Yaml

import MetricLoad.Text.Utf8

/-!
# Tags of YAML nodes

A tag is kept as bytes, because percent escapes may spell bytes that form no text.  The tags of the
standard types share a stem; a tag that begins with an exclamation mark belongs to the document.
-/

namespace MetricLoad.Yaml

/-- A tag, by the bytes of its name. -/
structure Tag where
  bytes : List UInt8
  deriving DecidableEq, Repr, Inhabited

namespace Tag

/-- What stands in front of the names of the standard types. -/
def standardStem : List UInt8 :=
  Text.bytes "tag:yaml.org,2002:"

/-- The tag of a standard type. -/
def standard (name : String) : Tag :=
  ⟨standardStem ++ Text.bytes name⟩

/-- Whether a tag belongs to the document. -/
def isLocal (t : Tag) : Bool :=
  t.bytes.head? == some 0x21

/-- The name of a tag of the document, without its exclamation mark; the mark alone is a name too.
Bytes that form no text are no name. -/
def localName? (t : Tag) : Option String :=
  match t.bytes with
  | [] => none
  | mark :: rest =>
    if mark == 0x21 then Text.decode? (if rest.isEmpty then [mark] else rest) else none

end Tag

/-- The bytes in front of the first zero. -/
def untilZero (bytes : List UInt8) : List UInt8 :=
  bytes.takeWhile (· != 0)

end MetricLoad.Yaml

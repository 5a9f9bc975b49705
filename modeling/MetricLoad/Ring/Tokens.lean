import MetricLoad.Random.Adler
import MetricLoad.Random.ChaCha
import MetricLoad.Text.Utf8

/-!
# Tokens of an instance

An instance without tokens of its own claims tokens that are drawn from a stream of random words
seeded with its address.  Words are drawn until enough different ones have appeared, and the result
is in increasing order.  The same address always gives the same tokens.

Whether enough different words appear is a property of the stream.  The number of draws is therefore
an explicit bound: `drawTokens` gives nothing when the bound is reached first.  The bound of
`generateTokens?` is the number of words after which the stream begins again, so it gives nothing
only where drawing would never come to an end.
-/

namespace MetricLoad.Ring

open MetricLoad.Random

/-- Inserts a token into an increasing list; a present one is not repeated. -/
def insertToken (token : UInt32) : List UInt32 → List UInt32
  | [] => [token]
  | t :: rest =>
    if token < t then token :: t :: rest
    else if token == t then t :: rest
    else t :: insertToken token rest

/-- Draws words into an increasing list of tokens until it has `count` members. -/
def drawTokens (count : Nat) : Nat → ChaCha → List UInt32 → Option (List UInt32)
  | 0, _, tokens => if tokens.length < count then none else some tokens
  | draws + 1, g, tokens =>
    if tokens.length < count then
      let (word, g) := g.next32
      drawTokens count draws g (insertToken word tokens)
    else some tokens

/-- The stream of random words of an address. -/
def addressStream (addr : String) : ChaCha :=
  ChaCha.ofSeed (adler32 (Text.bytes addr)).toUInt64

/-- The number of words that are drawn for one instance before giving up.  No further word would be
a new one. -/
def drawBound : Nat := ChaCha.period

/-- The first `count` different words of the stream of an address, in increasing order. -/
def generateTokens? (addr : String) (count : Nat) : Option (List UInt32) :=
  drawTokens count drawBound (addressStream addr) []

end MetricLoad.Ring

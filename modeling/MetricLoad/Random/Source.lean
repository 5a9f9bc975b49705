/-!
# Sources of random words

A source is a state from which words are drawn one after the other.  The state after a draw is part
of the result, so a run is a function of its seed.
-/

namespace MetricLoad.Random

/-- States from which 32-bit and 64-bit words can be drawn. -/
class Source (γ : Type) where
  /-- The next 32-bit word and the state after it. -/
  next32 : γ → UInt32 × γ
  /-- The next 64-bit word and the state after it. -/
  next64 : γ → UInt64 × γ

end MetricLoad.Random

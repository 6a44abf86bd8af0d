import VdiWrapper.Protocol

/-!
# Sinks

`class Sink` of `include/sink.h` as an interface over an arbitrary state type: what a call
returns and what it leaves behind may be any function of that state, so quantifying over a `Sink`
quantifies over every sequence of results.  The client holds its sink by a pointer it never
tests before a write, so a sink is always present.
-/

namespace Vdi

/-- `class Sink`.  The argument of `write` is the `size` bytes at `data`. -/
structure Sink (σ : Type) where
  write : σ → List UInt8 → Bool × σ
  flush : σ → σ
  isOpen : σ → Bool × σ

/-- `class NullSink`; `flush` is inherited from `Sink` and does nothing. -/
def nullSink : Sink Unit where
  write := fun s _ => (true, s)
  flush := fun s => s
  isOpen := fun s => (true, s)

end Vdi

import BuildWatch.Text.Hex

/-!
# Trace identifiers

A trace context names the active span by a 128-bit and a 64-bit number, zero
meaning none.  A message may carry the two as text.
-/

namespace BuildWatch

/-- The span that is active where an operation is called. -/
structure TraceContext where
  /-- The trace of the span, zero for none. -/
  traceId : BitVec 128
  /-- The span in its trace, zero for none. -/
  spanId : BitVec 64
deriving DecidableEq, Inhabited

/-- The context without an active span. -/
def TraceContext.none : TraceContext := ⟨0, 0⟩

/-- The identifiers that a message carries. -/
structure TraceFields where
  traceId : Option String
  spanId : Option String
deriving DecidableEq, Inhabited

namespace TraceFields

/-- No identifiers. -/
def none : TraceFields := ⟨Option.none, Option.none⟩

/-- Whether there are no identifiers. -/
def isEmpty (fields : TraceFields) : Bool :=
  fields.traceId.isNone && fields.spanId.isNone

end TraceFields

/-- A number as text of hexadecimal digits, unless it is zero. -/
def TraceContext.identifier (digits : Nat) (number : Nat) : Option String :=
  if number = 0 then Option.none
  else some (String.ofList (Hex.padded digits number))

/-- The identifiers of the active span. -/
def TraceContext.fields (context : TraceContext) : TraceFields where
  traceId := TraceContext.identifier 32 context.traceId.toNat
  spanId := TraceContext.identifier 16 context.spanId.toNat

@[simp]
theorem TraceContext.fields_none : TraceContext.none.fields = TraceFields.none :=
  rfl

end BuildWatch

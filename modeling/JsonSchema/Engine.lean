import JsonSchema.Compiler
import JsonSchema.Options
import JsonSchema.Pattern.Reading

/-!
An engine for patterns, so that schemas with patterns can be run. Compilers take any engine. This one reads patterns as
they are written, but the memory that a compiled pattern takes it does not reckon: it tells plain texts, which take
none, from all other patterns, which it takes to need some and never much.
-/
namespace JsonSchema

/-- No pattern but a plain text fits into as little as this. -/
def leastPatternSize : Nat := 1000

def CompileOptions.engine (options : CompileOptions) : PatternEngine := fun source =>
  if options.patternSize ≤ leastPatternSize && !Pattern.isPlain source then none
  else (Pattern.expression? source).map (·.isMatch)

def Compiler.ofOptions (options : CompileOptions) : Compiler := { engine := options.engine }

end JsonSchema

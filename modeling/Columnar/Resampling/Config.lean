import Columnar.Calendar.Frequency
import Columnar.Resampling.Aggregation

namespace Columnar

structure ResamplerConfig where
  frequency : Frequency := .default
  method : Aggregation := .default
  offsetMinutes : Fixed .int32 := .zero
deriving DecidableEq

namespace ResamplerConfig

def maxOffsetMinutes : Nat := 14 * 60

def IsValid (c : ResamplerConfig) : Prop := c.offsetMinutes.val.natAbs ≤ maxOffsetMinutes

instance (c : ResamplerConfig) : Decidable c.IsValid :=
  inferInstanceAs (Decidable (c.offsetMinutes.val.natAbs ≤ maxOffsetMinutes))

def universal (frequency : Frequency) (method : Aggregation) : ResamplerConfig :=
  { frequency := frequency, method := method }

def withOffset (c : ResamplerConfig) (minutes : Fixed .int32) : ResamplerConfig :=
  { c with offsetMinutes := minutes }

def invalidOffset (c : ResamplerConfig) : Error :=
  .invalidData (.offsetOutOfRange c.offsetMinutes.val maxOffsetMinutes)

def validate (c : ResamplerConfig) : Result Unit :=
  if c.IsValid then .ok () else .error c.invalidOffset

theorem universal_isValid (frequency : Frequency) (method : Aggregation) :
    (universal frequency method).IsValid := by
  show (0 : Int).natAbs ≤ maxOffsetMinutes
  decide

def inspect (c : ResamplerConfig) : String :=
  inspectRecord "ResamplerConfig"
    [("frequency", c.frequency.inspect), ("method", c.method.inspect),
     ("utc_offset_minutes", Columnar.inspect c.offsetMinutes)]

open Json in
def fields : List (RecordField ResamplerConfig) :=
  [{ name := "frequency"
     read := fun source v c => do return { c with frequency := ← decode source v }
     absent := .ok
     cut := .ok },
   { name := "method"
     read := fun source v c => do return { c with method := ← decode source v }
     absent := .ok
     cut := .ok },
   { name := "utc_offset_minutes"
     read := fun source v c => do return { c with offsetMinutes := ← decode source v }
     absent := .ok
     cut := .ok }]

instance : Codec ResamplerConfig where
  encode c :=
    .ofMembers [("frequency", encode c.frequency), ("method", encode c.method),
      ("utc_offset_minutes", encode c.offsetMinutes)]
  decode := Json.decodeRecord fields {}

end ResamplerConfig

end Columnar

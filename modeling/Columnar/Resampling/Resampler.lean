import Columnar.Resampling.Config
import Columnar.Table.Frame

/-! Neighbours in the same period form a run, and each run gives one row. Instants that are not in
order can open a period again. -/

namespace Columnar

structure Resampled (α : Type) [BEq α] where
  period : Series Timestamp
  value : Series α

structure Resampler where
  config : ResamplerConfig
  valid : config.IsValid

namespace Resampled

variable {α : Type} [BEq α]

def periodName : String := "period"

def valueName : String := "value"

def ofRows (rows : List (Timestamp × α)) : Resampled α where
  period := .ofList periodName (rows.map Prod.fst)
  value := .ofList valueName (rows.map Prod.snd)

def size (r : Resampled α) : Nat := r.period.size

def isEmpty (r : Resampled α) : Bool := r.period.isEmpty

def rows (r : Resampled α) : List (Timestamp × α) := r.period.data.zip r.value.data

end Resampled

def Resampled.toFrame {t : NumberType} (r : Resampled t.Carrier) : Result Frame :=
  Frame.Change.outcome (do
    Frame.addSeries .instant r.period
    Frame.addSeries (.number t) r.value) ∅

namespace Resampler

def ofConfig (c : ResamplerConfig) : Result Resampler :=
  if h : c.IsValid then .ok ⟨c, h⟩ else .error c.invalidOffset

def universal (frequency : Frequency) (method : Aggregation) : Resampler where
  config := .universal frequency method
  valid := ResamplerConfig.universal_isValid frequency method

def default : Resampler := universal .default .default

instance : BEq Resampler := ⟨fun r s => decide (r.config = s.config)⟩

def inspect (r : Resampler) : String := inspectRecord "Resampler" [("config", r.config.inspect)]

def key (r : Resampler) (t : Timestamp) : Result Timestamp :=
  r.config.frequency.periodStart t r.config.offsetMinutes.val

section Rows

variable {ι κ α β : Type} [DecidableEq κ] (key : ι → Result κ) (aggregate : List α → Result β)

/-- Goes on with an open run: its key, and its values so far with the last one first. The key of the
next run is found before this run is aggregated. -/
def continueRun (current : κ) (bucket : List α) : List (ι × α) → Result (List (κ × β))
  | [] => do
    let b ← aggregate bucket.reverse
    return [(current, b)]
  | (i, a) :: rest => do
    let k ← key i
    if k = current then continueRun current (a :: bucket) rest
    else do
      let b ← aggregate bucket.reverse
      let rows ← continueRun k [a] rest
      return (current, b) :: rows

def runs : List (ι × α) → Result (List (κ × β))
  | [] => .ok []
  | (i, a) :: rest => do
    let k ← key i
    continueRun key aggregate k [a] rest

end Rows

variable {α : Type} [Number α]

def resample (r : Resampler) (timestamps : List Timestamp) (values : List α) :
    Result (Resampled α) := do
  checkLength "values" timestamps.length values.length
  let rows ← runs r.key r.config.method.run (timestamps.zip values)
  return .ofRows rows

def resampleFrame {t : NumberType} (r : Resampler) (timestamps : List Timestamp)
    (values : List t.Carrier) : Result Frame := do
  let resampled ← r.resample timestamps values
  resampled.toFrame

def resampleColumns (r : Resampler) (f : Frame) (time : String) (t : NumberType) (value : String) :
    Result Frame := do
  let timestamps ← f.vector .instant time
  let values ← f.vector (.number t) value
  r.resampleFrame timestamps.data values.data

end Resampler

end Columnar

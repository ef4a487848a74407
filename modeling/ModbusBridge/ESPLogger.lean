import ModbusBridge.Text

/-!
# The logger's levels

`ESPLogger` formats a line into a buffer of 256 bytes before it calls its sinks, so a sink never
sees more than 255 bytes of text.
-/

namespace ModbusBridge.ESPLogger

/-- `ESPLogger::LogLevel`, most severe first. -/
inductive LogLevel
  | error
  | warn
  | info
  | debug
  deriving DecidableEq, Repr

/-- The numeric value of the enumerator. -/
def LogLevel.code : LogLevel → UInt8
  | .error => 0
  | .warn => 1
  | .info => 2
  | .debug => 3

/-- `ESPLogger::logLevelToString`. -/
def logLevelToString : LogLevel → Bytes
  | .error => ascii "error"
  | .warn => ascii "warn"
  | .info => ascii "info"
  | .debug => ascii "debug"

/-- `ESPLogger::stringToLogLevel`. -/
def stringToLogLevel (level : Bytes) : LogLevel :=
  let levelStr := toLowerCase level
  if levelStr = ascii "error" then .error
  else if levelStr = ascii "warn" then .warn
  else if levelStr = ascii "info" then .info
  else if levelStr = ascii "debug" then .debug
  else .info

/-- The text that `ESPLogger::vprintf` hands to the sinks: at most 255 bytes. -/
structure Line where
  /-- The formatted text. -/
  text : CString
  formatted : text.strlen ≤ 255

/-- A line of `count` letters `x`. -/
def Line.xs (count : Nat) (small : count ≤ 255) : Line where
  text :=
    { bytes := List.replicate count 120
      noNul := fun byte member => by rw [List.eq_of_mem_replicate member]; decide }
  formatted := by simpa [CString.strlen] using small

end ModbusBridge.ESPLogger

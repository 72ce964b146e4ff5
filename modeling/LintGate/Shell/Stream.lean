/-! Bytes that commands read and write. -/
namespace LintGate.Shell

def repeated (bytes : ByteArray) (count : Nat) : ByteArray :=
  if _h : count = 0 then .empty
  else
    let half := repeated bytes (count / 2)
    if count % 2 = 0 then half ++ half else half ++ half ++ bytes
termination_by count
decreasing_by omega

/-- Bytes to be read. After them the cycle comes again and again, unless it is empty. -/
structure Stream where
  bytes : ByteArray
  cycle : ByteArray

namespace Stream

def empty : Stream := ⟨.empty, .empty⟩

def ofBytes (bytes : ByteArray) : Stream := ⟨bytes, .empty⟩

def isEndless (s : Stream) : Bool := !s.cycle.isEmpty

def take (s : Stream) (count : Nat) : ByteArray × Stream :=
  if count ≤ s.bytes.size then
    (s.bytes.extract 0 count, ⟨s.bytes.extract count s.bytes.size, s.cycle⟩)
  else if s.cycle.isEmpty then (s.bytes, empty)
  else
    let missing := count - s.bytes.size
    let more := repeated s.cycle (missing / s.cycle.size + 1)
    (s.bytes ++ more.extract 0 missing, ⟨more.extract missing more.size, s.cycle⟩)

def map (f : UInt8 → UInt8) (s : Stream) : Stream := ⟨⟨s.bytes.data.map f⟩, ⟨s.cycle.data.map f⟩⟩

end Stream

def newline : UInt8 := 10

def linesOf (bytes : ByteArray) : List (List UInt8) :=
  let (line, done) := bytes.data.foldr (fun b (line, done) =>
    if b != newline then (b :: line, done)
    else if line.isEmpty then ([b], done)
    else ([b], line :: done)) (([] : List UInt8), ([] : List (List UInt8)))
  if line.isEmpty then done else line :: done

def ofLines (lines : List (List UInt8)) : ByteArray := ⟨lines.flatten.toArray⟩

def Stream.takeLine (s : Stream) : ByteArray × Bool × Stream :=
  let bytes := if s.bytes.data.contains newline then s.bytes else s.bytes ++ s.cycle
  let size := (bytes.data.toList.takeWhile (· != newline)).length
  (bytes.extract 0 size, decide (size < bytes.size), ⟨bytes.extract (size + 1) bytes.size, s.cycle⟩)

end LintGate.Shell

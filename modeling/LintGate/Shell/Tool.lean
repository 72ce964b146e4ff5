import LintGate.Files.Tree
import LintGate.Shell.Edit
import LintGate.Shell.Format

/-! Tools that scripts use: each is a function of its arguments, its input and the files that it
can read. -/
namespace LintGate.Shell

structure Surroundings where
  input : Stream
  read : String → Except ReadError Stream
  list : String → Except ReadError (List String)
  bindings : List (String × String)

/-- What a tool does: output, errors, exit code and the input that is left. After its output it
may write a cycle of bytes for ever, or never end, and it may take some milliseconds. -/
structure Effect where
  out : ByteArray
  err : String
  status : Nat
  input : Stream
  cycle : ByteArray
  stuck : Bool
  delay : Nat

namespace Effect

def write (s : Surroundings) (out : ByteArray) : Effect :=
  ⟨out, "", 0, s.input, .empty, false, 0⟩

def exit (s : Surroundings) (status : Nat) : Effect := { write s .empty with status := status }

def complain (s : Surroundings) (tool text : String) (status : Nat) : Effect :=
  { exit s status with err := tool ++ ": " ++ text ++ "\n" }

def stick (s : Surroundings) : Effect := { write s .empty with stuck := true }

end Effect

abbrev Tool := List String → Surroundings → Effect

def reason : ReadError → String
  | .missing => "No such file or directory"
  | .notDirectory => "Not a directory"
  | .isDirectory => "Is a directory"
  | .nameTooLong => "File name too long"
  | .nulByte => "Invalid argument"
  | .notText => "Invalid argument"

structure Contents where
  streams : List (String × Stream)
  errors : String
  failed : Bool
  input : Stream

def gather (tool : String) (files : List String) (s : Surroundings) : Contents :=
  let files := if files.isEmpty then ["-"] else files
  let c := files.foldl (fun (c : Contents) file =>
    if file = "-" then { c with streams := (file, c.input) :: c.streams, input := .empty }
    else match s.read file with
      | .ok stream => { c with streams := (file, stream) :: c.streams }
      | .error e =>
        { c with errors := c.errors ++ tool ++ ": " ++ file ++ ": " ++ reason e ++ "\n"
                 failed := true }) ⟨[], "", false, s.input⟩
  { c with streams := c.streams.reverse }

def Contents.joined (c : Contents) : Stream :=
  c.streams.foldl (fun (all : Stream) (_, next) =>
    -- Nothing follows what never ends.
    if all.isEndless then all else ⟨all.bytes ++ next.bytes, next.cycle⟩) .empty

def Contents.finish (c : Contents) (e : Effect) : Effect :=
  { e with err := c.errors ++ e.err, input := c.input
           status := if c.failed then max 1 e.status else e.status }

def cat : Tool := fun args s =>
  let c := gather "cat" (args.filter (· != "-u")) s
  let all := c.joined
  c.finish { Effect.write s all.bytes with cycle := all.cycle }

structure Count where
  bytes : Bool
  fromStart : Bool
  count : Nat
deriving DecidableEq, Repr

def Count.parse? (bytes : Bool) (text : List Char) : Option Count :=
  match text with
  | '+' :: rest => (inBase? 10 rest).map (⟨bytes, true, ·⟩)
  | '-' :: rest => (inBase? 10 rest).map (⟨bytes, false, ·⟩)
  | _ => (inBase? 10 text).map (⟨bytes, false, ·⟩)

def readCount (count : Count) (args : List String) : Option (Count × List String) :=
  match args with
  | [] => some (count, [])
  | arg :: rest =>
    match arg.toList, rest with
    | ['-', 'c'], n :: rest => (Count.parse? true n.toList).map (·, rest)
    | ['-', 'n'], n :: rest => (Count.parse? false n.toList).map (·, rest)
    | '-' :: 'c' :: n, rest => (Count.parse? true n).map (·, rest)
    | '-' :: 'n' :: n, rest => (Count.parse? false n).map (·, rest)
    | '-' :: d :: n, rest =>
      if d.isDigit then (Count.parse? false (d :: n)).map (·, rest) else none
    | _, _ => some (count, args)

def takeLines (count : Nat) (s : Stream) (done : ByteArray) : ByteArray × Stream :=
  match count with
  | 0 => (done, s)
  | count + 1 =>
    if s.bytes.isEmpty && s.cycle.isEmpty then (done, s)
    else
      let (line, ended, rest) := s.takeLine
      takeLines count rest (if ended then (done ++ line).push newline else done ++ line)

def head : Tool := fun args s =>
  match readCount ⟨false, false, 10⟩ args with
  | none => .complain s "head" "invalid option" 1
  | some (count, files) =>
    let c := gather "head" files s
    let all := c.joined
    let (out, rest) :=
      if count.bytes then all.take count.count else takeLines count.count all .empty
    { c.finish (.write s out) with input := if files.isEmpty then rest else c.input }

def tail : Tool := fun args s =>
  match readCount ⟨false, false, 10⟩ args with
  | none => .complain s "tail" "invalid option" 1
  | some (count, files) =>
    let c := gather "tail" files s
    let all := c.joined
    if all.isEndless then .stick s
    else
      let size := all.bytes.size
      let out :=
        if count.bytes then
          all.bytes.extract (if count.fromStart then count.count - 1 else size - count.count) size
        else
          let lines := linesOf all.bytes
          ofLines (lines.drop
            (if count.fromStart then count.count - 1 else lines.length - count.count))
      c.finish (.write s out)

def unescape (done : List UInt8) (cs : List Char) : Nat → List UInt8
  | 0 => done.reverse
  | fuel + 1 =>
    match cs with
    | [] => done.reverse
    | '\\' :: c :: rest =>
      if isOctal c then
        let (byte, rest) := octal 3 (c :: rest)
        unescape (byte :: done) rest fuel
      else match letterEscape? c with
        | some code => unescape (code.toUInt8 :: done) rest fuel
        | none => unescape ((bytesOf c).data.toList.reverse ++ done) rest fuel
    | c :: rest => unescape ((bytesOf c).data.toList.reverse ++ done) rest fuel

def byteRange (low high : UInt8) : List UInt8 :=
  (List.range (high.toNat + 1 - low.toNat)).map (fun n => low + n.toUInt8)

def byteClasses : List (String × List UInt8) :=
  [("[:upper:]", byteRange 65 90), ("[:lower:]", byteRange 97 122), ("[:digit:]", byteRange 48 57),
   ("[:alpha:]", byteRange 65 90 ++ byteRange 97 122),
   ("[:alnum:]", byteRange 48 57 ++ byteRange 65 90 ++ byteRange 97 122),
   ("[:space:]", byteRange 9 13 ++ [32]), ("[:blank:]", [9, 32])]

def expandRanges : List UInt8 → List UInt8
  | low :: 45 :: high :: rest =>
    if low ≤ high then byteRange low high ++ expandRanges rest
    else low :: 45 :: high :: expandRanges rest
  | b :: rest => b :: expandRanges rest
  | [] => []

def byteSet (text : String) : List UInt8 :=
  match byteClasses.lookup text with
  | some members => members
  | none => expandRanges (unescape [] text.toList (text.length + 1))

def transliterate (source target : List UInt8) (b : UInt8) : UInt8 :=
  match source.idxOf? b with
  | some i => target[i]?.getD (target.getLast?.getD b)
  | none => b

def tr : Tool := fun args s =>
  let done (stream : Stream) : Effect :=
    { Effect.write s stream.bytes with cycle := stream.cycle, input := .empty }
  match args with
  | ["-d", set] =>
    let members := byteSet set
    let keep (b : ByteArray) : ByteArray := ⟨b.data.filter (fun x => !members.contains x)⟩
    let left : Stream := ⟨keep s.input.bytes, keep s.input.cycle⟩
    if s.input.isEndless && !left.isEndless then .stick s else done left
  | [source, target] =>
    let source := byteSet source
    let target := byteSet target
    done (s.input.map (transliterate source target))
  | _ => .complain s "tr" "missing operand" 1

def wordCount (bytes : ByteArray) : Nat :=
  (bytes.data.foldl (fun (count, inside) b =>
    let blank := b == 32 || (9 ≤ b && b ≤ 13)
    (if !blank && !inside then count + 1 else count, !blank)) (0, false)).1

def wc : Tool := fun args s =>
  let flags := args.takeWhile (fun a => a.startsWith "-" && a != "-")
  let files := args.dropWhile (fun a => a.startsWith "-" && a != "-")
  let letters := flags.flatMap (fun f => f.toList.drop 1)
  let letters := if letters.isEmpty then ['l', 'w', 'c'] else letters
  let c := gather "wc" files s
  if c.joined.isEndless then .stick s
  else
    let row (name : String) (bytes : ByteArray) : String :=
      let counts := [('l', bytes.data.count newline), ('w', wordCount bytes), ('c', bytes.size)]
      let shown := (counts.filter (fun (letter, _) => letters.contains letter)).map
        (fun (_, n) => toString n)
      let shown := if shown.length > 1 && files.isEmpty
        then shown.map (fun n => String.ofList (fill ' ' (7 - n.length)) ++ n) else shown
      Text.join " " (shown ++ if name = "-" then [] else [name]) ++ "\n"
    let rows := c.streams.map (fun (name, stream) => row name stream.bytes)
    c.finish (.write s (String.join rows).toUTF8)

def yes : Tool := fun args s =>
  let line := (if args.isEmpty then "y" else Text.join " " args) ++ "\n"
  { Effect.write s .empty with cycle := line.toUTF8 }

def delay? (text : String) : Option Nat := do
  let cs := text.toList
  let (number, unit) := match cs.getLast? with
    | some 's' => (cs.dropLast, 1)
    | some 'm' => (cs.dropLast, 60)
    | some 'h' => (cs.dropLast, 3600)
    | some 'd' => (cs.dropLast, 86400)
    | _ => (cs, 1)
  let whole := number.takeWhile (· != '.')
  let fraction := (number.dropWhile (· != '.')).drop 1
  let digits ← inBase? 10 (whole ++ fraction)
  some (digits * 1000 * unit / Nat.pow 10 fraction.length)

def sleep : Tool := fun args s =>
  if args.isEmpty then .complain s "sleep" "missing operand" 1
  else if args.contains "infinity" then .stick s
  else match args.mapM delay? with
    | some delays => { Effect.write s .empty with delay := delays.foldl (· + ·) 0 }
    | none => .complain s "sleep" ("invalid time interval '" ++ args.headD "" ++ "'") 1

def sed : Tool := fun args s =>
  let silent := args.contains "-n"
  let args := args.filter (fun a => a != "-n" && a != "-e")
  match args with
  | [] => .complain s "sed" "no script" 1
  | script :: files =>
    match readEdits [] script.toUTF8.data.toList (script.utf8ByteSize + 1) with
    | none => .complain s "sed" "unknown command" 1
    | some edits =>
      let c := gather "sed" files s
      let all := c.joined
      if all.isEndless then .stick s
      else c.finish (.write s (ofLines (editLines silent edits 1 (linesOf all.bytes))))

def closedLines (bytes : ByteArray) : List (List UInt8) :=
  (linesOf bytes).map (fun line =>
    if line.getLast? = some newline then line else line ++ [newline])

def grep : Tool := fun args s =>
  let isFlag (a : String) := a.startsWith "-" && a != "-"
  let letters := (args.takeWhile isFlag).flatMap (fun f => f.toList.drop 1)
  match args.dropWhile isFlag with
  | [] => .complain s "grep" "no pattern" 2
  | pattern :: files =>
    let source := pattern.toUTF8.data.toList
    let found : Option Expression := if letters.contains 'F'
      then some ⟨false, false, source.map (fun b => ⟨.byte b, false⟩)⟩
      else Expression.parse? source
    match found with
    | none => .complain s "grep" "invalid pattern" 2
    | some e =>
      let c := gather "grep" files s
      let all := c.joined
      if all.isEndless then .stick s
      else
        let chosen := (closedLines all.bytes).zipIdx.filter (fun (line, _) =>
          (e.find? [] (line.takeWhile (· != newline))).isSome != letters.contains 'v')
        let numbered (line : List UInt8) (index : Nat) : List UInt8 :=
          if letters.contains 'n' then (toString (index + 1) ++ ":").toUTF8.data.toList ++ line
          else line
        let out := if letters.contains 'q' then .empty
          else if letters.contains 'c' then (toString chosen.length ++ "\n").toUTF8
          else ofLines (chosen.map (fun (line, index) => numbered line index))
        let e := c.finish (.write s out)
        { e with status := if c.failed then 2 else if chosen.isEmpty then 1 else 0 }

def notAfter : List UInt8 → List UInt8 → Bool
  | [], _ => true
  | _ :: _, [] => false
  | a :: as, b :: bs => a < b || (a == b && notAfter as bs)

def sort : Tool := fun args s =>
  let flags := args.filter (fun a => a.startsWith "-" && a != "-")
  let letters := flags.flatMap (fun f => f.toList.drop 1)
  let c := gather "sort" (args.filter (fun a => !(a.startsWith "-" && a != "-"))) s
  let all := c.joined
  if all.isEndless then .stick s
  else
    let key (line : List UInt8) : Nat :=
      numberOf ((line.dropWhile (· == 32)).takeWhile isDigitByte)
    let before (a b : List UInt8) : Bool :=
      if letters.contains 'n' ∧ key a ≠ key b then key a < key b
      else notAfter a b
    let lines := (closedLines all.bytes).mergeSort before
    let lines := if letters.contains 'u' then lines.eraseReps else lines
    c.finish (.write s (ofLines (if letters.contains 'r' then lines.reverse else lines)))

def uniq : Tool := fun args s =>
  let c := gather "uniq" args s
  let all := c.joined
  if all.isEndless then .stick s
  else c.finish (.write s (ofLines (closedLines all.bytes).eraseReps))

def chosen (spec : String) (index : Nat) : Bool :=
  (Text.pieces (· == ',') spec.toList).any (fun range =>
    match Text.cut? '-' range with
    | some (low, high) =>
      (inBase? 10 low).getD 1 ≤ index && (high.isEmpty || index ≤ (inBase? 10 high).getD 0)
    | none => inBase? 10 range == some index)

def cutOptions (options : List (Char × String)) : List String → List (Char × String) × List String
  | [] => (options, [])
  | arg :: rest =>
    match arg.toList, rest with
    | ['-', letter], value :: rest => cutOptions ((letter, value) :: options) rest
    | '-' :: letter :: value, rest => cutOptions ((letter, String.ofList value) :: options) rest
    | _, _ => (options, arg :: rest)

def cutLine (options : List (Char × String)) (line : List UInt8) : List UInt8 :=
  let body := line.takeWhile (· != newline)
  let pick {α : Type} (spec : String) (items : List α) : List α :=
    (items.zipIdx.filter (fun (_, i) => chosen spec (i + 1))).map (·.1)
  match options.lookup 'f', options.lookup 'c' with
  | some spec, _ =>
    let mark := (((options.lookup 'd').getD "\t").toUTF8.data[0]?).getD 9
    if !body.contains mark then line
    else
      let fields := body.splitOn mark
      ((pick spec fields).intersperse [mark]).flatten ++ [newline]
  | none, some spec => pick spec body ++ [newline]
  | none, none => line

def cut : Tool := fun args s =>
  let (options, files) := cutOptions [] args
  let c := gather "cut" files s
  let all := c.joined
  if all.isEndless then .stick s
  else c.finish (.write s (ofLines ((closedLines all.bytes).map (cutLine options))))

def countUp (step last : Int) (n : Int) : Nat → List String
  | 0 => []
  | fuel + 1 =>
    if (0 < step ∧ last < n) ∨ (step < 0 ∧ n < last) ∨ step = 0 then []
    else toString n :: countUp step last (n + step) fuel

def seq : Tool := fun args s =>
  let lines (first step last : Int) : Effect :=
    let count := ((last - first).natAbs / max 1 step.natAbs) + 1
    .write s (String.join ((countUp step last first count).map (· ++ "\n"))).toUTF8
  match args.mapM signedConstant? with
  | some [last] => lines 1 1 last
  | some [first, last] => lines first 1 last
  | some [first, step, last] => lines first step last
  | _ => .complain s "seq" "invalid argument" 1

def basename : Tool := fun args s =>
  match args with
  | path :: rest =>
    let name := ((Path.segments path.toList).filter (fun seg => !seg.isEmpty)).getLast?.getD
      (if path.isEmpty then [] else ['/'])
    let ending := (rest.headD "").toList
    let short := if ending.isSuffixOf name && name != ending
      then name.take (name.length - ending.length) else name
    .write s (String.ofList short ++ "\n").toUTF8
  | [] => .complain s "basename" "missing operand" 1

def dirname : Tool := fun args s =>
  match args with
  | path :: _ =>
    let segments := Path.dropIdleEnd (Path.segments path.toList)
    let parent := String.ofList (Path.joinSegments segments.dropLast)
    let parent := if !parent.isEmpty then parent else if Path.isAbsolute path then "/" else "."
    .write s (parent ++ "\n").toUTF8
  | [] => .complain s "dirname" "missing operand" 1

def ls : Tool := fun args s =>
  let hidden := args.any (fun a => a == "-a" || a == "-A")
  let paths := args.filter (fun a => !(a.startsWith "-"))
  let paths := if paths.isEmpty then ["."] else paths
  let row (path : String) : Except ReadError (List String) :=
    match s.list path with
    | .ok names => .ok (names.filter (fun n => hidden || !n.startsWith "."))
    | .error .notDirectory => .ok [path]
    | .error e => .error e
  let rows := paths.map row
  let shown := rows.flatMap (fun r => (r.toOption).getD [])
  let errors := (paths.zip rows).filterMap (fun (path, r) =>
    match r with
    | .error e => some ("ls: cannot access '" ++ path ++ "': " ++ reason e ++ "\n")
    | .ok _ => none)
  { Effect.write s (String.join (shown.map (· ++ "\n"))).toUTF8 with
    err := String.join errors, status := if errors.isEmpty then 0 else 2 }

def printenv : Tool := fun args s =>
  match args with
  | [] => .write s (String.join (s.bindings.map (fun (n, v) => n ++ "=" ++ v ++ "\n"))).toUTF8
  | name :: _ =>
    match s.bindings.lookup name with
    | some value => .write s (value ++ "\n").toUTF8
    | none => .exit s 1

def echo : Tool := fun args s => .write s (echoText args)

def printf : Tool := fun args s =>
  match args with
  | "--" :: format :: args | format :: args =>
    let p := printfText format args
    { Effect.write s p.bytes with status := if p.malformed.isSome then 1 else 0
                                  err := (p.malformed.map (fun text => text ++ "\n")).getD "" }
  | [] => .complain s "printf" "usage: printf format [arg ...]" 2

def plainEcho : Tool := fun args s =>
  match args with
  | "-n" :: rest => .write s (Text.join " " rest).toUTF8
  | "-e" :: rest => .write s (echoText rest)
  | _ => .write s (Text.join " " args ++ "\n").toUTF8

def tools : List (String × Tool) :=
  [("true", fun _ s => .exit s 0), ("false", fun _ s => .exit s 1), ("cat", cat), ("head", head),
   ("tail", tail), ("tr", tr), ("wc", wc), ("yes", yes), ("sleep", sleep), ("sed", sed),
   ("grep", grep), ("sort", sort), ("uniq", uniq), ("cut", cut), ("seq", seq),
   ("basename", basename), ("dirname", dirname), ("ls", ls), ("printenv", printenv),
   ("echo", plainEcho), ("printf", printf)]

end LintGate.Shell

/-! Glob patterns: their tokens and their syntax errors. A pattern speaks about a whole
relative path. `?` stands for one character, `*` for any run of characters, a bracket class
for one of its characters, and `**` for any number of whole directories or all the rest of the
path; everything else stands for itself. -/
namespace LintGate.Glob

inductive ClassItem where
  | one (c : Char)
  | range (first last : Char)
deriving DecidableEq, Repr

inductive Token where
  | literal (c : Char)
  | anyChar
  | anyRun
  | anyDirs
  | within (items : List ClassItem)
  | except (items : List ClassItem)
deriving DecidableEq, Repr

inductive Fault where
  | tooManyStars
  | notWholeComponent
  | badClass
deriving DecidableEq, Repr

structure SyntaxError where
  position : Nat
  fault : Fault
deriving DecidableEq, Repr

def Fault.message : Fault → String
  | .tooManyStars => "wildcards are either regular `*` or recursive `**`"
  | .notWholeComponent => "recursive wildcards must form a single path component"
  | .badClass => "invalid range pattern"

def SyntaxError.message (e : SyntaxError) : String :=
  "Pattern syntax error near position " ++ toString e.position ++ ": " ++ e.fault.message

def classItems : List Char → List ClassItem
  | first :: '-' :: last :: rest => .range first last :: classItems rest
  | c :: rest => .one c :: classItems rest
  | [] => []

/-- Where the reader of a pattern stands. A bracket class remembers where it was opened and
holds at least one character, so a bracket that comes first does not close it. -/
inductive Place where
  | outside
  | opened (start : Nat)
  | negated (start : Nat)
  | inClass (start : Nat) (isExcept : Bool) (inside : List Char)
deriving DecidableEq, Repr

def closeClass (isExcept : Bool) (inside : List Char) : Token :=
  let items := classItems inside.reverse
  if isExcept then .except items else .within items

def pushDirs : List Token → List Token
  | .anyDirs :: t :: ts => .anyDirs :: t :: ts
  | ts => .anyDirs :: ts

/-- Reads tokens; `position` characters and the tokens `done`, last first, are behind the
reader, and `atStart` says that a path component begins here. -/
def read : Place → (position : Nat) → (atStart : Bool) → (done : List Token) → List Char →
    Except SyntaxError (List Token)
  | .outside, _, _, done, [] => .ok done.reverse
  | .opened start, _, _, _, [] => .error ⟨start, .badClass⟩
  | .negated start, _, _, _, [] => .error ⟨start, .badClass⟩
  | .inClass start _ _, _, _, _, [] => .error ⟨start, .badClass⟩
  | .opened start, n, _, done, c :: cs =>
    if c = '!' then read (.negated start) (n + 1) false done cs
    else read (.inClass start false [c]) (n + 1) false done cs
  | .negated start, n, _, done, c :: cs => read (.inClass start true [c]) (n + 1) false done cs
  | .inClass start isExcept inside, n, _, done, c :: cs =>
    if c = ']' then read .outside (n + 1) false (closeClass isExcept inside :: done) cs
    else read (.inClass start isExcept (c :: inside)) (n + 1) false done cs
  | .outside, n, _, _, '*' :: '*' :: '*' :: _ => .error ⟨n + 2, .tooManyStars⟩
  | .outside, n, false, _, '*' :: '*' :: _ => .error ⟨n - 1, .notWholeComponent⟩
  | .outside, _, true, done, ['*', '*'] => .ok (pushDirs done).reverse
  | .outside, n, true, done, '*' :: '*' :: c :: cs =>
    if c = '/' then read .outside (n + 3) true (pushDirs done) cs
    else .error ⟨n + 2, .notWholeComponent⟩
  | .outside, n, _, done, c :: cs =>
    if c = '*' then read .outside (n + 1) false (.anyRun :: done) cs
    else if c = '?' then read .outside (n + 1) false (.anyChar :: done) cs
    else if c = '[' then read (.opened n) (n + 1) false done cs
    else read .outside (n + 1) (c == '/') (.literal c :: done) cs

structure Pattern where
  text : String
  tokens : List Token
deriving DecidableEq, Repr

def Pattern.parse (text : String) : Except SyntaxError Pattern :=
  (read .outside 0 true [] text.toList).map (fun tokens => ⟨text, tokens⟩)

end LintGate.Glob

/-! Scripts of the shell: words that are expanded when they are used, and commands. -/
namespace LintGate.Shell

inductive Part where
  | literal (text : String) (quoted : Bool)
  | parameter (name operator word : String) (quoted : Bool)
  | output (source : String) (quoted : Bool)
  | arithmetic (source : String) (quoted : Bool)
deriving DecidableEq, Repr

abbrev Word := List Part

inductive Redirect where
  | fromFile (descriptor : Nat) (file : Word)
  | toFile (descriptor : Nat) (append : Bool) (file : Word)
  | copy (descriptor : Nat) (other : Word)
  | fromText (descriptor : Nat) (text : Word)
deriving DecidableEq, Repr

inductive Script where
  | simple (line : Nat) (assignments : List (String × Word)) (words : List Word)
      (redirects : List Redirect)
  | pipeline (negated : Bool) (stages : List Script)
  | both (left right : Script)
  | either (left right : Script)
  | sequence (items : List Script)
  | background (body : Script)
  | subshell (body : Script)
  | redirected (body : Script) (redirects : List Redirect)
  | conditional (branches : List (Script × Script)) (otherwise : Script)
  | loop (stopsWhen : Bool) (condition body : Script)
  | each (name : String) (words : Option (List Word)) (body : Script)
  | choice (word : Word) (arms : List (List Word × Script))
  | function (name : String) (body : Script)
deriving Repr, Inhabited

def Script.nothing : Script := .sequence []

end LintGate.Shell

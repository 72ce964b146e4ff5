import LintGate.Text.Cut

/-! Text in colours for a terminal. The same spans give the coloured and the plain text. -/
namespace LintGate.Text

inductive Colour where
  | red
  | green
  | yellow
  | blue
  | grey
deriving DecidableEq, Repr

def Colour.code : Colour → String
  | .red => "31"
  | .green => "32"
  | .yellow => "33"
  | .blue => "34"
  | .grey => "90"

structure Style where
  bold : Bool
  colour : Option Colour
deriving DecidableEq, Repr

def Style.plain : Style := ⟨false, none⟩

structure Span where
  style : Style
  text : String
deriving DecidableEq, Repr

def escape (code : String) : String := "\x1b[" ++ code ++ "m"

def Style.paint (style : Style) (text : String) : String :=
  let coloured := match style.colour with
    | none => text
    | some colour => escape colour.code ++ text ++ escape "39"
  if style.bold then escape "1" ++ coloured ++ escape "0" else coloured

def plainSpan (text : String) : Span := ⟨.plain, text⟩

def Span.render (coloured : Bool) (span : Span) : String :=
  if coloured then span.style.paint span.text else span.text

def renderSpans (coloured : Bool) (spans : List Span) : String :=
  spans.foldl (fun out span => out ++ span.render coloured) ""

def renderLines (coloured : Bool) (lines : List (List Span)) : String :=
  join "\n" (lines.map (renderSpans coloured))

end LintGate.Text

import LoxLexer.Character

/-! # The choice of colour -/

namespace LoxLexer

/-- The variables of the environment that ask for colour or against it. -/
structure ColourSettings where
  noColour? : Option Text
  colour? : Option Text
  forceColour? : Option Text
  deriving DecidableEq, Repr

namespace ColourSettings

/-- Every value but a zero counts as a yes. -/
def affirmed (value : Text) : Bool :=
  value != ['0']

/-- Whether output is coloured.  A demand for colour comes first, then a request
for none; without either a terminal gets colour unless it is switched off. -/
def coloured (settings : ColourSettings) (terminal : Bool) : Bool :=
  match settings.forceColour?.any affirmed, settings.noColour? with
  | true, _ => true
  | false, some _ => false
  | false, none => terminal && settings.colour?.all affirmed

end ColourSettings
end LoxLexer

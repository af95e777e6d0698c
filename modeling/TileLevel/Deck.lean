import TileLevel.Text.Blank

/-!
# The Command Deck

What can be typed at the command deck: `:` and the name of a command, or `@` and the path of a
level. Blanks around the input and around a path do not count; a name ends at the first space.

## Main definitions

- `DeckCommand.parse`: the command that an input means
- `DeckCommand.text`: the shortest input that means a command
- `Event`: what a session is told to do
-/

namespace TileLevel

inductive DeckCommand where
  | quit
  | help
  | reload
  | loadFile (path : String)
  | exportTo (path : String)
  /-- Any other input, without the blanks around it -/
  | unknown (input : String)
deriving DecidableEq, Repr

namespace DeckCommand

/-- The command with a name and an argument, if there is one. -/
def named? (name argument : List Char) : Option DeckCommand :=
  if argument = [] then
    if name = "q".toList ∨ name = "quit".toList then some .quit
    else if name = "h".toList ∨ name = "help".toList then some .help
    else if name = "r".toList ∨ name = "reload".toList then some .reload
    else none
  else if name = "w".toList ∨ name = "write".toList then some (.exportTo (.ofList argument))
  else none

/-- The command that a text without blanks around it means, if it means one. -/
def ofTrimmed? : List Char → Option DeckCommand
  | ':' :: body =>
    named? (body.takeWhile (· != ' ')) (Text.trim ((body.dropWhile (· != ' ')).drop 1))
  | '@' :: body =>
    if Text.trim body = [] then none else some (.loadFile (.ofList (Text.trim body)))
  | _ => none

def parse (input : String) : DeckCommand :=
  let text := Text.trim input.toList
  (ofTrimmed? text).getD (.unknown (.ofList text))

/-- The shortest input that means a command. -/
def text : DeckCommand → String
  | .quit => ":q"
  | .help => ":h"
  | .reload => ":r"
  | .loadFile path => "@" ++ path
  | .exportTo path => ":w " ++ path
  | .unknown input => input

end DeckCommand

/-- What a session is told to do. -/
inductive Event where
  | loadFile (path : String)
  | reload
  | exportTo (path : String)
  | quit
  | help
  | warning (message : String)
  | invalidCommand (input : String)
deriving DecidableEq, Repr

def DeckCommand.event : DeckCommand → Event
  | .quit => .quit
  | .help => .help
  | .reload => .reload
  | .loadFile path => .loadFile path
  | .exportTo path => .exportTo path
  | .unknown input => .invalidCommand input

end TileLevel

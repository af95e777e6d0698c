import TileLevel.Session
import TileLevel.Text.Split

/-!
# Panels

What surrounds the board on the screen: the status line, the command deck, the text shown before a
level is loaded, and the legend with the counts of a level.
-/

namespace TileLevel

variable {Colour : Type}

/-! ## §1 The legend -/

/-- For each kind its glyph and count, then the size of the level. -/
def LevelSummary.legend (theme : Theme Colour) (summary : LevelSummary) : List (Span Colour) :=
  let inColour (text : String) (colour : Colour) : Span Colour :=
    { text, style := { foreground := some colour } }
  (Kind.all.flatMap fun kind =>
    [ inColour (.singleton kind.glyph) (theme.kindColour kind)
    , inColour (" " ++ toString (summary.count kind) ++ "  ") theme.text ])
  ++ [inColour (toString summary.columns ++ "x" ++ toString summary.rows) theme.dimmed]

/-! ## §2 Text panels -/

/-- The lines of a text. A line end after the last line adds none. -/
def textLines (text : String) : List String :=
  let lines := Text.splitOn ['\n'] text.toList
  (if lines.getLast? = some [] then lines.dropLast else lines).map String.ofList

/-- A text without styles of its own. -/
def Paragraph.ofText (text : String) (style : Style Colour) : Paragraph Colour where
  lines := (textLines text).map fun line => [{ text := line }]
  style

def statusLine (theme : Theme Colour) (status : Option String) : Paragraph Colour :=
  .ofText (status.getD "") (theme.onBackdrop theme.dimmed)

def placeholder (theme : Theme Colour) : Paragraph Colour :=
  { Paragraph.ofText "Type @filename to load a level\n:h for help, :q to quit"
      (theme.onBackdrop theme.dimmed) with alignment := .centre }

/-! ## §3 The command deck -/

def Mode.indicator : Mode → String
  | .command => " COMMAND "
  | .preview => " PREVIEW "
  | .quit => " QUIT "

/-- The line of the command deck: what has been typed, or else the keys. -/
def deckLine (mode : Mode) (input : String) : String :=
  match mode with
  | .command => mode.indicator ++ input
  | _ => mode.indicator ++ " ':' command deck, hjkl scroll, q quit"

/-- The input of the command deck under its border. -/
def deckInput (theme : Theme Colour) (mode : Mode) (input : String) : Paragraph Colour :=
  { Paragraph.ofText (deckLine mode input) (theme.onBackdrop theme.text) with
    border := some { foreground := some theme.dimmed } }

/-- The command deck: an accent bar in the first column, and beside it the input under its border. In
    a single column the input has precedence. -/
def drawDeck [Renderer Colour] (theme : Theme Colour) (width height : Nat) (mode : Mode)
    (input : String) : Screen Colour :=
  let barWidth := min 1 (width - 1)
  let bar := Paragraph.ofText "▌" (theme.onBackdrop theme.spawn)
  List.zipWith (· ++ ·) (Renderer.draw bar barWidth height)
    (Renderer.draw (deckInput theme mode input) (width - barWidth) height)

/-! ## §4 A session on the screen -/

namespace Session

variable [Typography] [Renderer Colour]

def drawBoard (theme : Theme Colour) (width height : Nat) (s : Session) : Screen Colour :=
  match s.preview with
  | some preview => preview.draw theme width height
  | none => Renderer.draw (placeholder theme) width height

end Session

end TileLevel

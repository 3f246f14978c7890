import Scripting.Event
import Scripting.Library.Colour
import Scripting.Library.Markup
import Scripting.Script.Value

/-!
# Native functions

The functions that libraries offer to scripts.  A function takes a fixed list of kinds of arguments
and is found only for arguments of those kinds.  What it answers depends on nothing but its
arguments, the surroundings and the way in which text is escaped, and what it tells the user goes to
the log.
-/

namespace Scripting.Library

open Script (Value)

/-- what a script may learn of the world around it -/
structure Surroundings where
  /-- the environment variables that are set -/
  settings : List (String × String) := []
  /-- milliseconds since the beginning of 1970 -/
  millis : Int := 0
deriving Inhabited

/-- what kind of argument a function takes -/
inductive Kind where
  | whole | text
deriving DecidableEq, Repr

def Kind.admits : Kind → Value → Bool
  | .whole, .int _ => true
  | .text, .text _ => true
  | _, _ => false

inductive Native where
  | version | lookup | millis
  | messageBox | status
  | pack | red | green | blue
  | escape | unescape
deriving DecidableEq, Repr

namespace Native

/-- the name that scripts call it by -/
def name : Native → String
  | version => "version"
  | lookup => "env"
  | millis => "now_millis"
  | messageBox => "message_box"
  | status => "status"
  | pack => "rgb"
  | red => "red"
  | green => "green"
  | blue => "blue"
  | escape => "escape"
  | unescape => "unescape"

def parameters : Native → List Kind
  | version | millis => []
  | lookup | messageBox | status | escape | unescape => [.text]
  | pack => [.whole, .whole, .whole]
  | red | green | blue => [.whole]

/-- the version of the host -/
def hostVersion : String := "0.1.0"

/-- whether a call by `name` with these arguments means this function -/
def answersTo (n : Native) (name : String) (args : List Value) : Bool :=
  n.name == name && n.parameters.length == args.length
    && (n.parameters.zip args).all fun p => p.1.admits p.2

/-- what a call writes to the log -/
def events : Native → List Value → List Event
  | messageBox, [.text s] => [.messageBox s]
  | status, [.text s] => [.status s]
  | _, _ => []

/-- what a call answers: a value, or the message that it fails with -/
def call (markup : Markup.Codec) (around : Surroundings) :
    Native → List Value → Except String Value
  | version, _ => .ok (.text hostVersion)
  | lookup, [.text s] =>
    match around.settings.find? fun v => v.1 == s with
    | some v => .ok (.text v.2)
    | none => .ok .unit
  | millis, _ => .ok (.int around.millis)
  | pack, [.int r, .int g, .int b] =>
    match Colour.pack (.ofInt r) (.ofInt g) (.ofInt b) with
    | .ok c => .ok (.int c.toInt)
    | .error e => .error e.message
  | red, [.int c] => .ok (.int (Colour.red (.ofInt c)).toInt)
  | green, [.int c] => .ok (.int (Colour.green (.ofInt c)).toInt)
  | blue, [.int c] => .ok (.int (Colour.blue (.ofInt c)).toInt)
  | escape, [.text s] => .ok (.text (String.ofList (markup.escape s.toList)))
  | unescape, [.text s] =>
    match markup.unescape s.toList with
    | .ok cs => .ok (.text (String.ofList cs))
    | .error message => .error ("invalid XML text: " ++ message)
  | _, _ => .ok .unit

end Native

end Scripting.Library

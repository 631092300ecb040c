import Hotki.Keycode.Chord

/-! Reading chords from text: key names, shorthands and aliases, and modifiers before a key. -/

namespace Hotki

/-- Whether a character is white space, as Unicode defines it. -/
def isWhitespace (letter : Char) : Bool :=
  let code := letter.toNat
  9 ≤ code && code ≤ 13 || 0x2000 ≤ code && code ≤ 0x200A ||
    code ∈ [0x20, 0x85, 0xA0, 0x1680, 0x2028, 0x2029, 0x202F, 0x205F, 0x3000]

/-- Removes white space at both ends. -/
def trimmed (text : List Char) : List Char :=
  ((text.dropWhile isWhitespace).reverse.dropWhile isWhitespace).reverse

/-- The shorthands of digits, punctuation and space. -/
def keySpecMap : List (String × Key) := [
  ("0", .digit0), ("1", .digit1), ("2", .digit2), ("3", .digit3), ("4", .digit4), ("5", .digit5),
  ("6", .digit6), ("7", .digit7), ("8", .digit8), ("9", .digit9), (" ", .space), ("-", .minus),
  ("=", .equal), ("[", .leftBracket), ("]", .rightBracket), ("\\", .backslash), (";", .semicolon),
  ("'", .quote), (",", .comma), (".", .period), ("/", .slash), ("`", .grave)]

/-- Aliases that only apply to parsing. -/
def keySpecAliases : List (String × Key) := [
  ("cmd", .command), ("ctrl", .control), ("opt", .option), ("alt", .option), ("caps", .capsLock),
  ("fn", .function), ("enter", .return_), ("ret", .return_), ("backslash", .backslash),
  ("comma", .comma), ("period", .period), ("slash", .slash), ("minus", .minus),
  ("equal", .equal), ("semicolon", .semicolon), ("quote", .quote), ("grave", .grave),
  ("leftbracket", .leftBracket), ("rightbracket", .rightBracket), ("del", .forwardDelete),
  ("backspace", .delete), ("esc", .escape), ("space", .space), ("left", .leftArrow),
  ("right", .rightArrow), ("up", .upArrow), ("down", .downArrow), ("pgup", .pageUp),
  ("pgdn", .pageDown), ("menu", .contextualMenu), ("kpenter", .keypadEnter)]

/-- Looks a key up by its name, without regard to case. -/
def Key.fromName (name : String) : Option Key :=
  Key.all.find? fun key => toAsciiLowercase key.name == toAsciiLowercase name

/-- Parses a key by its name, else as a shorthand, else as an alias. -/
def Key.fromSpec (text : String) : Option Key :=
  (Key.fromName text).or
    ((keySpecMap.lookup text).or (keySpecAliases.lookup (toAsciiLowercase text)))

/-- The modifier a key stands for. -/
def Modifier.ofKey (key : Key) : Option Modifier :=
  printOrder.find? fun modifier => modifier.toKey == key

/-- Parses a modifier as the key it is pressed with. -/
def Modifier.fromSpec (text : String) : Option Modifier :=
  (Key.fromSpec text).bind Modifier.ofKey

/-- Parses modifiers and a key separated by plus signs. -/
def Chord.parse (text : String) : Option Chord := do
  let components := text.toList.splitOn '+'
  let keyRaw ← components.getLast?
  -- A literal single space stands for the space key.
  let key ←
    if keyRaw = [' '] then Key.fromSpec " " else Key.fromSpec (String.ofList (trimmed keyRaw))
  let modifiers ← components.dropLast.mapM fun component =>
    let component := trimmed component
    if component.isEmpty then none else Modifier.fromSpec (String.ofList component)
  some ⟨modifiers.toFinset, key⟩

example : Chord.parse "Shift + alt+K" = some ⟨{.shift, .option}, .k⟩ := by decide +kernel

end Hotki

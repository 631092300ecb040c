/-! Keys of the macOS keyboard, their virtual keycodes, and the words that spell them. -/

namespace Hotki

/-- Keys known to the keycode table, one for each virtual keycode it lists. -/
inductive Key where
  | a | s | d | f | h | g | z | x | c | v | isoSection | b | q | w | e | r | y | t | digit1
  | digit2 | digit3 | digit4 | digit6 | digit5 | equal | digit9 | digit7 | minus | digit8
  | digit0 | rightBracket | o | u | leftBracket | i | p | return_ | l | j | quote | k | semicolon
  | backslash | comma | slash | n | m | period | tab | space | grave | delete | escape
  | rightCommand | command | shift | capsLock | option | control | rightShift | rightOption
  | rightControl | function | f17 | keypadDecimal | keypadMultiply | keypadPlus | keypadClear
  | volumeUp | volumeDown | mute | keypadDivide | keypadEnter | keypadMinus | f18 | f19
  | keypadEquals | keypad0 | keypad1 | keypad2 | keypad3 | keypad4 | keypad5 | keypad6 | keypad7
  | f20 | keypad8 | keypad9 | jisYen | jisUnderscore | jisKeypadComma | f5 | f6 | f7 | f3 | f8
  | f9 | jisEisu | f11 | jisKana | f13 | f16 | f14 | f10 | contextualMenu | f12 | f15 | help
  | home | pageUp | forwardDelete | f4 | end_ | f2 | pageDown | f1 | leftArrow | rightArrow
  | downArrow | upArrow
  deriving DecidableEq, Repr, Inhabited

namespace Key

/-- Every key of the table, in keycode order. -/
def all : List Key := [
  .a, .s, .d, .f, .h, .g, .z, .x, .c, .v, .isoSection, .b, .q, .w, .e, .r, .y, .t, .digit1,
  .digit2, .digit3, .digit4, .digit6, .digit5, .equal, .digit9, .digit7, .minus, .digit8,
  .digit0, .rightBracket, .o, .u, .leftBracket, .i, .p, .return_, .l, .j, .quote, .k, .semicolon,
  .backslash, .comma, .slash, .n, .m, .period, .tab, .space, .grave, .delete, .escape,
  .rightCommand, .command, .shift, .capsLock, .option, .control, .rightShift, .rightOption,
  .rightControl, .function, .f17, .keypadDecimal, .keypadMultiply, .keypadPlus, .keypadClear,
  .volumeUp, .volumeDown, .mute, .keypadDivide, .keypadEnter, .keypadMinus, .f18, .f19,
  .keypadEquals, .keypad0, .keypad1, .keypad2, .keypad3, .keypad4, .keypad5, .keypad6, .keypad7,
  .f20, .keypad8, .keypad9, .jisYen, .jisUnderscore, .jisKeypadComma, .f5, .f6, .f7, .f3, .f8,
  .f9, .jisEisu, .f11, .jisKana, .f13, .f16, .f14, .f10, .contextualMenu, .f12, .f15, .help,
  .home, .pageUp, .forwardDelete, .f4, .end_, .f2, .pageDown, .f1, .leftArrow, .rightArrow,
  .downArrow, .upArrow]

/-- The canonical name for a key: its variant in the source. -/
def name : Key → String
  | .a => "A"
  | .s => "S"
  | .d => "D"
  | .f => "F"
  | .h => "H"
  | .g => "G"
  | .z => "Z"
  | .x => "X"
  | .c => "C"
  | .v => "V"
  | .isoSection => "ISOSection"
  | .b => "B"
  | .q => "Q"
  | .w => "W"
  | .e => "E"
  | .r => "R"
  | .y => "Y"
  | .t => "T"
  | .digit1 => "Digit1"
  | .digit2 => "Digit2"
  | .digit3 => "Digit3"
  | .digit4 => "Digit4"
  | .digit6 => "Digit6"
  | .digit5 => "Digit5"
  | .equal => "Equal"
  | .digit9 => "Digit9"
  | .digit7 => "Digit7"
  | .minus => "Minus"
  | .digit8 => "Digit8"
  | .digit0 => "Digit0"
  | .rightBracket => "RightBracket"
  | .o => "O"
  | .u => "U"
  | .leftBracket => "LeftBracket"
  | .i => "I"
  | .p => "P"
  | .return_ => "Return"
  | .l => "L"
  | .j => "J"
  | .quote => "Quote"
  | .k => "K"
  | .semicolon => "Semicolon"
  | .backslash => "Backslash"
  | .comma => "Comma"
  | .slash => "Slash"
  | .n => "N"
  | .m => "M"
  | .period => "Period"
  | .tab => "Tab"
  | .space => "Space"
  | .grave => "Grave"
  | .delete => "Delete"
  | .escape => "Escape"
  | .rightCommand => "RightCommand"
  | .command => "Command"
  | .shift => "Shift"
  | .capsLock => "CapsLock"
  | .option => "Option"
  | .control => "Control"
  | .rightShift => "RightShift"
  | .rightOption => "RightOption"
  | .rightControl => "RightControl"
  | .function => "Function"
  | .f17 => "F17"
  | .keypadDecimal => "KeypadDecimal"
  | .keypadMultiply => "KeypadMultiply"
  | .keypadPlus => "KeypadPlus"
  | .keypadClear => "KeypadClear"
  | .volumeUp => "VolumeUp"
  | .volumeDown => "VolumeDown"
  | .mute => "Mute"
  | .keypadDivide => "KeypadDivide"
  | .keypadEnter => "KeypadEnter"
  | .keypadMinus => "KeypadMinus"
  | .f18 => "F18"
  | .f19 => "F19"
  | .keypadEquals => "KeypadEquals"
  | .keypad0 => "Keypad0"
  | .keypad1 => "Keypad1"
  | .keypad2 => "Keypad2"
  | .keypad3 => "Keypad3"
  | .keypad4 => "Keypad4"
  | .keypad5 => "Keypad5"
  | .keypad6 => "Keypad6"
  | .keypad7 => "Keypad7"
  | .f20 => "F20"
  | .keypad8 => "Keypad8"
  | .keypad9 => "Keypad9"
  | .jisYen => "JISYen"
  | .jisUnderscore => "JISUnderscore"
  | .jisKeypadComma => "JISKeypadComma"
  | .f5 => "F5"
  | .f6 => "F6"
  | .f7 => "F7"
  | .f3 => "F3"
  | .f8 => "F8"
  | .f9 => "F9"
  | .jisEisu => "JISEisu"
  | .f11 => "F11"
  | .jisKana => "JISKana"
  | .f13 => "F13"
  | .f16 => "F16"
  | .f14 => "F14"
  | .f10 => "F10"
  | .contextualMenu => "ContextualMenu"
  | .f12 => "F12"
  | .f15 => "F15"
  | .help => "Help"
  | .home => "Home"
  | .pageUp => "PageUp"
  | .forwardDelete => "ForwardDelete"
  | .f4 => "F4"
  | .end_ => "End"
  | .f2 => "F2"
  | .pageDown => "PageDown"
  | .f1 => "F1"
  | .leftArrow => "LeftArrow"
  | .rightArrow => "RightArrow"
  | .downArrow => "DownArrow"
  | .upArrow => "UpArrow"

/-- The virtual keycode a key stands for. -/
def keycode : Key → Nat
  | .a => 0x0
  | .s => 0x1
  | .d => 0x2
  | .f => 0x3
  | .h => 0x4
  | .g => 0x5
  | .z => 0x6
  | .x => 0x7
  | .c => 0x8
  | .v => 0x9
  | .isoSection => 0xA
  | .b => 0xB
  | .q => 0xC
  | .w => 0xD
  | .e => 0xE
  | .r => 0xF
  | .y => 0x10
  | .t => 0x11
  | .digit1 => 0x12
  | .digit2 => 0x13
  | .digit3 => 0x14
  | .digit4 => 0x15
  | .digit6 => 0x16
  | .digit5 => 0x17
  | .equal => 0x18
  | .digit9 => 0x19
  | .digit7 => 0x1A
  | .minus => 0x1B
  | .digit8 => 0x1C
  | .digit0 => 0x1D
  | .rightBracket => 0x1E
  | .o => 0x1F
  | .u => 0x20
  | .leftBracket => 0x21
  | .i => 0x22
  | .p => 0x23
  | .return_ => 0x24
  | .l => 0x25
  | .j => 0x26
  | .quote => 0x27
  | .k => 0x28
  | .semicolon => 0x29
  | .backslash => 0x2A
  | .comma => 0x2B
  | .slash => 0x2C
  | .n => 0x2D
  | .m => 0x2E
  | .period => 0x2F
  | .tab => 0x30
  | .space => 0x31
  | .grave => 0x32
  | .delete => 0x33
  | .escape => 0x35
  | .rightCommand => 0x36
  | .command => 0x37
  | .shift => 0x38
  | .capsLock => 0x39
  | .option => 0x3A
  | .control => 0x3B
  | .rightShift => 0x3C
  | .rightOption => 0x3D
  | .rightControl => 0x3E
  | .function => 0x3F
  | .f17 => 0x40
  | .keypadDecimal => 0x41
  | .keypadMultiply => 0x43
  | .keypadPlus => 0x45
  | .keypadClear => 0x47
  | .volumeUp => 0x48
  | .volumeDown => 0x49
  | .mute => 0x4A
  | .keypadDivide => 0x4B
  | .keypadEnter => 0x4C
  | .keypadMinus => 0x4E
  | .f18 => 0x4F
  | .f19 => 0x50
  | .keypadEquals => 0x51
  | .keypad0 => 0x52
  | .keypad1 => 0x53
  | .keypad2 => 0x54
  | .keypad3 => 0x55
  | .keypad4 => 0x56
  | .keypad5 => 0x57
  | .keypad6 => 0x58
  | .keypad7 => 0x59
  | .f20 => 0x5A
  | .keypad8 => 0x5B
  | .keypad9 => 0x5C
  | .jisYen => 0x5D
  | .jisUnderscore => 0x5E
  | .jisKeypadComma => 0x5F
  | .f5 => 0x60
  | .f6 => 0x61
  | .f7 => 0x62
  | .f3 => 0x63
  | .f8 => 0x64
  | .f9 => 0x65
  | .jisEisu => 0x66
  | .f11 => 0x67
  | .jisKana => 0x68
  | .f13 => 0x69
  | .f16 => 0x6A
  | .f14 => 0x6B
  | .f10 => 0x6D
  | .contextualMenu => 0x6E
  | .f12 => 0x6F
  | .f15 => 0x71
  | .help => 0x72
  | .home => 0x73
  | .pageUp => 0x74
  | .forwardDelete => 0x75
  | .f4 => 0x76
  | .end_ => 0x77
  | .f2 => 0x78
  | .pageDown => 0x79
  | .f1 => 0x7A
  | .leftArrow => 0x7B
  | .rightArrow => 0x7C
  | .downArrow => 0x7D
  | .upArrow => 0x7E

/-- Looks up a key from its generated HIToolbox value. -/
def fromKeycode (code : Nat) : Option Key :=
  all.find? fun key => key.keycode == code

/-- The shorthand a key is written as, or its variant name when it has none. -/
def specOrName : Key → String
  | .digit0 => "0"
  | .digit1 => "1"
  | .digit2 => "2"
  | .digit3 => "3"
  | .digit4 => "4"
  | .digit5 => "5"
  | .digit6 => "6"
  | .digit7 => "7"
  | .digit8 => "8"
  | .digit9 => "9"
  | .space => " "
  | .minus => "-"
  | .equal => "="
  | .leftBracket => "["
  | .rightBracket => "]"
  | .backslash => "\\"
  | .semicolon => ";"
  | .quote => "'"
  | .comma => ","
  | .period => "."
  | .slash => "/"
  | .grave => "`"
  | key => key.name

end Key

/-- Lowercases the ASCII letters of a text and leaves every other character alone. -/
def toAsciiLowercase (text : String) : String :=
  String.ofList (text.toList.map Char.toLower)

/-- The key specification string for a key. -/
def Key.toSpec (key : Key) : String :=
  toAsciiLowercase key.specOrName

end Hotki

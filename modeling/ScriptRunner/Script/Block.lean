import ScriptRunner.Script.Source

/-!
# Writing scripts

A script can be written from blocks. A plain block is a statement with its own delimiter at the end;
a wrapped block sets another delimiter for one statement, which may then hold delimiters of the
usual kind, and sets it back. `Block.IsReadable` says which blocks can be read back as they are.
-/

namespace ScriptRunner.Script

open Text

/-- A part of a script. -/
inductive Block where
  | plain (text : Text)
  | wrapped (delimiter text : Text)
  deriving DecidableEq, Repr

/-- A text that comes through as it is, line by line, whatever it is closed by. -/
structure IsBody (text : Text) : Prop where
  trimmed : trim text = text
  return_notMem : '\r' ∉ text
  mark_notMem : text.head? ≠ some '\uFEFF'
  comment_notMem : contains blockOpen text = false
  quotes : text.count '\'' % 2 = 0
  code : ∀ line ∈ lines text, isIgnorable line = false ∧ isDirective line = false
  body : isBlank (trim (dropEnd ';' text)) = false

/-- A text with a delimiter at the end, and none that closes a statement on an earlier line. -/
structure EndsOnce (text : Text) : Prop where
  ends : endsWith defaultDelimiter text
  once : ∀ before line after, lines text = before ++ line :: after → after ≠ [] →
    endsWith defaultDelimiter (trimEnd line) → (before ++ [line]).flatten.count '\'' % 2 = 1

/-- A token that can stand for the end of a statement with the given text. -/
structure IsTokenFor (text token : Text) : Prop where
  ne_nil : token ≠ []
  ne_default : token ≠ defaultDelimiter
  blank_notMem : ∀ c ∈ token, isBlankChar c = false
  quote_notMem : '\'' ∉ token
  comment_notMem : contains blockOpen token = false
  not_ignorable : isIgnorable token = false
  notMem : contains token text = false

namespace Block

/-- The statement of a block. -/
def text : Block → Text
  | plain text => text
  | wrapped _ text => text

/-- How many lines of a block stand before its statement. -/
def lead : Block → Nat
  | plain _ => 0
  | wrapped _ _ => 1

/-- The lines that make up a block, each with a line feed. -/
def render : Block → Text
  | plain text => text ++ ['\n']
  | wrapped delimiter text =>
    keyword ++ [' '] ++ delimiter ++ ['\n'] ++ text ++ ['\n'] ++ delimiter ++ ['\n']
      ++ keyword ++ [' '] ++ defaultDelimiter ++ ['\n']

/-- A block whose statement can be read back. -/
def IsReadable : Block → Prop
  | plain text => IsBody text ∧ EndsOnce text
  | wrapped delimiter text => IsBody text ∧ IsTokenFor text delimiter

/-- The statements of some blocks, the first of which begins behind `count` lines. -/
def statements (count : Nat) : List Block → List Statement
  | [] => []
  | block :: rest =>
    ⟨block.text, count + block.lead + 1⟩ :: statements (count + block.render.count '\n') rest

end Block

/-- The script that some blocks make up. -/
def renderBlocks (blocks : List Block) : Text := blocks.flatMap Block.render

end ScriptRunner.Script

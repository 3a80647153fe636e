import ScriptRunner.Text.Table

/-!
# Marks

The combining classes of characters, and the characters of the Unicode categories of marks. A
character of class zero starts a group; the marks behind it may change places when their classes
differ.
-/

namespace ScriptRunner.Text

/-- The combining classes above zero, each behind the letter `C`. -/
def combiningClasses : Table := .ofWords 0x300 "
  15Ce6 Ce8 4Cdc Ce8 Cd8 5Cdc 2Cca 4Cdc 2Cca bCdc 5C1 4Cdc 8Ce6 Cf0 Ce6 3Cdc 3Ce6 2Cdc N 3Ce6 4Cdc
  Ce6 Ce8 2Cdc Ce6 Ce9 2Cea Ce9 2Cea Ce9 dCe6 113N 5Ce6 109N Cdc 4Ce6 Cdc 3Ce6 Cde Cdc 6Ce6 6Cdc
  2Ce6 Cdc 2Ce6 Cde Ce4 Ce6 Ca Cb Cc Cd Ce Cf C10 C11 C12 2C13 C14 C15 C16 N C17 N C18 C19 N Ce6
  Cdc N C12 48N 8Ce6 C1e C1f C20 30N C1b C1c C1d C1e C1f C20 C21 C22 2Ce6 2Cdc 5Ce6 Cdc 2Ce6 Cdc
  10N C23 65N 7Ce6 2N 4Ce6 Cdc Ce6 2N 2Ce6 N Cdc 2Ce6 Cdc 23N C24 1eN Ce6 Cdc 2Ce6 Cdc 2Ce6 3Cdc
  Ce6 2Cdc Ce6 Cdc 3Ce6 Cdc Ce6 Cdc Ce6 Cdc Ce6 Cdc 2Ce6 a0N 7Ce6 Cdc Ce6 9N Cdc 18N 4Ce6 N 9Ce6 N
  3Ce6 N 5Ce6 2bN 3Cdc 3bN 2Ce6 3Cdc 4Ce6 2aN 5Ce6 5Cdc eCe6 N Cdc 2Ce6 Cdc 2Ce6 Cdc 3Ce6 3Cdc C1b
  C1c C1d 3Ce6 Cdc 2Ce6 2Cdc 5Ce6 3cN C7 10N C9 3N Ce6 Cdc 2Ce6 67N C7 10N C9 30N Ce6 3dN C7 10N
  C9 6eN C7 10N C9 6eN C7 10N C9 7fN C9 6eN C7 10N C9 7N C54 C5b 65N C7 10N C9 6dN 2C9 10N C9 7cN
  C9 6dN 2C67 C9 dN 4C6b 6cN 2C76 C9 dN 4C7a 4cN 2Cdc 1bN Cdc N Cdc N Cd8 37N C81 C82 N C84 5N
  4C82 2N C82 N 2Ce6 C9 N 2Ce6 3eN Cdc 70N C7 N 2C9 52N Cdc 2cfN 3Ce6 3b4N 2C9 1eN C9 9dN C9 aN
  Ce6 cbN Ce4 8fN Cde Ce6 Cdc dbN Ce6 Cdc 47N C9 14N 8Ce6 2N Cdc 30N 5Ce6 6Cdc 2Ce6 Cdc N 2Cdc
  2Ce6 2Cdc 5Ce6 Cdc 12Ce6 Cdc 2N 6Ce6 Cdc 4Ce6 Cea 48N C7 fN C9 26N Ce6 Cdc 7Ce6 36N 2C9 3aN C7
  bN 2C9 43N C7 98N 3Ce6 N C1 5Cdc 2Ce6 4Cdc Ce6 N 7C1 4N Cdc 6N Ce6 3N 2Ce6 c6N 2Ce6 Cdc 7Ce6 Cdc
  2Ce6 Cea Cd6 Cdc Cca 25Ce6 Ce8 2Ce4 Cdc Cda Ce6 Ce9 Cdc Ce6 Cdc 2d0N 2Ce6 2C1 4Ce6 3C1 2Ce6 4N
  Ce6 3N 2C1 Ce6 Cdc Ce6 2C1 4Cdc Ce6 bfeN 3Ce6 8dN C9 60N 20Ce6 22aN Cda Ce4 Ce8 Cde 2Ce0 69N 2C8
  75d4N Ce6 4N aCe6 20N 2Ce6 50N 2Ce6 114N C9 25N C9 97N C9 1bN 12Ce6 39N 3Cdc 25N C9 5fN C7 cN C9
  efN Ce6 N 2Ce6 Cdc 2N 2Ce6 5N 2Ce6 N Ce6 34N C9 f6N C9 4f30N C1a 301N 7Ce6 7Cdc 2Ce6 3cdN Cdc
  e2N Cdc 95N 5Ce6 692N Cdc N Ce6 28N Ce6 C1 Cdc 4N C9 a5N Ce6 Cdc 23dN 4Ce6 41N 5Ce6 13dN 2Ce6
  4dN 2Cdc N 3Cdc 46N 2Cdc 3Ce6 Cdc Ce6 4Cdc 31N Ce6 Cdc Ce6 Cdc c0N C9 29N C9 eN C9 39N C9 C7 45N
  3Ce6 30N 2C9 3eN C7 4cN C9 9N C7 6aN C9 C7 b2N C7 C9 50N 2C7 10N C9 18N 7Ce6 3N 5Ce6 59N 3C9 71N
  C9 3N C7 17N Ce6 63N C9 C7 fbN C9 C7 7eN C9 76N C9 C7 73N C9 10dN C9 C7 102N 2C9 4N C7 9cN C9
  53N C9 12N C9 51N C9 1a5N C9 102N C7 N 2C9 51N C9 1a9N 2C9 41ecN C9 9c0N 5C1 3bN 7Ce6 4b9N 2C6
  4cacN C1 14c6N 2Cd8 3C1 3N Ce2 5Cd8 8N 8Cdc 2N 5Ce6 2Cdc 1eN 4Ce6 94N 3Ce6 dbbN 7Ce6 N 11Ce6 2N
  7Ce6 N 2Ce6 N 5Ce6 64N Ce6 a0N 7Ce6 177N Ce6 3dN 4Ce6 1fcN 2Ce8 Cdc Ce6 feN Ce6 Cdc f3N Ce6 2N
  Ce6 7N 2Ce6 5N Ce6 1daN 7Cdc 6dN 6Ce6 C7"

/-- The combining class of a character. -/
def combiningClass (c : Char) : Nat :=
  match combiningClasses.find? c with
  | some (run, _) => run.numbers.headD 0
  | none => 0

/-- The class of the sign that takes the vowel from a letter. -/
def vowelKiller : Nat := 9

/-- The characters of the categories of marks, with the letter `M`. -/
def marks : Table := .ofWords 0x300 "
  70M 113N 7M 107N 2dM N M N 2M N 2M N M 48N bM 30N 15M 10N M 65N 7M 2N 6M 2N 2M N 4M 23N M 1eN
  1bM 5bN bM 3aN 9M 9N M 18N 4M N 9M N 3M N 5M 2bN 3M 3bN 9M 2aN 18M N 21M 36N 3M N 12M N 7M aN 2M
  1dN 3M 38N M N 7M 2N 2M 2N 3M 9N M aN 2M 1aN M 2N 3M 38N M N 5M 4N 2M 2N 3M 3N M 1eN 2M 3N M bN
  3M 38N M N 8M N 3M N 3M 14N 2M 16N 6M N 3M 38N M N 7M 2N 2M 2N 3M 7N 3M aN 2M 1eN M 3bN 5M 3N 3M
  N 4M 9N M 28N 5M 37N M N 7M N 3M N 4M 7N 2M bN 2M 1dN 3M 38N M N 7M N 3M N 4M 7N 2M bN 2M fN M
  cN 4M 37N 2M N 7M N 3M N 4M 9N M aN 2M 1dN 3M 46N M 4N 6M N M N 8M 12N 2M 3dN M 2N 7M cN 8M 62N
  M 2N 9M bN 7M 49N 2M 1bN M N M N M 4N 2M 31N 14M N 2M 5N bM N 24M 9N M 64N 14M 17N 4M 4N 3M N 3M
  2N 7M 3N 4M dN cM N M aN 4M 2bfN 3M 3b2N 4M 1cN 3M 1dN 2M 1eN 2M 40N 20M 9N M 2dN 3M N M 75N 2M
  22N M 76N cM 4N cM dbN 5M 39N aM N 1dM 2N M 30N 2eM 2N cM 14N 5M 2fN 11M 26N 9M cN 3M 1eN dM 38N
  eM 30N 14M 98N 3M N 15M 4N M 6N M 2N 3M c6N 40M 2d0N 21M bfeN 3M 8dN M 60N 20M 22aN 6M 69N 2M
  75d4N 4M N aM 20N 2M 50N 2M 110N M 3N M 4N M 17N 5M 4N M 53N 2M 32N 12M 1aN 12M dN M 26N 8M 19N
  dM 2cN 4M 2fN eM 24N M 43N eM cN M 8N 2M 2dN 3M 32N M N 3M 2N 2M 5N 2M N M 29N 5M 5N 2M ecN 8M N
  2M 4f30N M 2e1N 10M 10N 10M 3cdN M e2N M 95N 5M 686N 3M N 2M 5N 4M 28N 3M 4N M a5N 2M 23dN 4M
  41N 5M 13dN 2M 4dN 6M 46N bM 31N 4M 7aN 3M 35N fM 29N M 2N 2M aN 4M 2dN bM 7N M 3dN 3M 24N eM
  10N 2M 2cN M cN 3M 30N eM 8N 4M N 2M 5cN cM 6N M 2N M 9dN cM 15N 4M 37N 2M N 7M 2N 2M 2N 3M 9N M
  aN 2M 2N 7M 3N 5M 43N 9M N M 2N M N 4M N 5M N M eN 2M 52N 12M 17N M 51N 14M ebN 7M 2N 9M 1bN 2M
  52N 11M 6aN dM 65N fM 100N fM f5N 6M N 2M 2N 4M N M N 2M 8dN 7M 2N 7M 3N M 1cN aM 28N 7M N 4M 8N
  M 9N bM 2eN 10M c6N 8M c7N 8M N 8M 52N 16M N eM 7aN 6M 3N M N 2M N 7M N M 42N 5M N 2M N 5M 15bN
  4M 9N 2M N M 30N 7M 3N 5M 17N M 14e5N M 6N fM 2cc8N 12M 9c0N 5M 3bN 7M 418N M N 37M 7N 4M 51N M
  bN 2M 4cabN 2M 1261N 2eM 2N 17M 21eN 5M 3N 6M 8N 8M 2N 7M 1eN 4M 94N 3M 7bbN 37M 4N 32M 8N M eN
  M 16N 5M N fM 550N 7M N 11M 2N 7M N 2M N 5M 64N M a0N 7M 177N M 3dN 4M 1fcN 4M feN 2M f3N M 2N M
  7N 2M 5N M 1daN 7M 6dN 7M c17b5N f0M"

/-- A character of a category of marks. -/
def isMark (c : Char) : Bool := marks.property c 'N' == 'M'

end ScriptRunner.Text

import ScriptRunner.Run.Connector
import ScriptRunner.Text.Quoted
import ScriptRunner.Url.Redact

/-!
# Connecting to a database

The scheme of a URL says which driver opens the session. What the driver and the server behind it
answer is not decided here: it is a parameter, the `Server`, and `Server.database` is the connector
for the database at a URL where that server answers.

`Server.standIn` takes the place of a server where there is none, and `database` connects to it.
-/

namespace ScriptRunner

open Text

/-- The databases that there are drivers for. -/
inductive Driver where
  | mySql
  | sqlite
  deriving DecidableEq, Repr

namespace Driver

/-- The driver for the URLs of a scheme. -/
def ofScheme? (scheme : Text) : Option Driver :=
  if scheme = "mysql".toList ∨ scheme = "mariadb".toList then some mySql
  else if scheme = "sqlite".toList then some sqlite
  else none

/-- How a driver calls itself. -/
def name : Driver → Text
  | mySql => "MySQL"
  | sqlite => "SQLite"

end Driver

namespace Database

/-- The driver that a URL asks for. -/
def driver (url : Text) : Except DatabaseError Driver :=
  match Url.read url with
  | .error error => .error (.configuration error.message)
  | .ok url =>
    match Driver.ofScheme? url.scheme with
    | some driver => .ok driver
    | none => .error (.configuration ("no driver found for URL scheme " ++ quoted url.scheme))

/-- The note about an opened session. -/
def openedNote (driver : Driver) : Log.Entry :=
  { level := .debug
    target := "sqlapply::executor"
    message := "connection opened"
    fields := [("backend", .quoted driver.name)] }

/-- The note about an executed statement. -/
def executedNote (rows : Nat) : Log.Entry :=
  { level := .debug
    target := "sqlapply::executor"
    message := "statement done"
    fields := [("rows", .number rows)] }

/-- What executing a statement comes to at a server. -/
structure Answer where
  /-- The number of rows that were changed, or the error. -/
  rows : Except DatabaseError Nat := .ok 0
  /-- What the driver itself reports. -/
  notes : List Log.Entry := []

/-- What an answer brings about in a session. -/
def Answer.reply (answer : Answer) : Reply :=
  match answer.rows with
  | .error error => { error := some error, notes := answer.notes }
  | .ok rows => { notes := answer.notes ++ [executedNote rows] }

end Database

/-- What drivers and the servers behind them answer, given by what happens to a state of type `σ`,
which holds all that they remember. -/
structure Server (σ : Type) where
  /-- Open a session at a URL. A driver reports what it likes. -/
  connect : Driver → Text → σ → σ × Except DatabaseError (List Log.Entry)
  /-- Execute a statement in the open session. -/
  execute : Text → σ → σ × Database.Answer
  /-- Close the session. -/
  close : σ → σ × Option DatabaseError

namespace Server

variable {σ : Type}

/-- Open a session at a URL with the driver for it. -/
def openSession (server : Server σ) (url : Text) (session : σ) :
    σ × Except DatabaseError (List Log.Entry) :=
  match Database.driver url with
  | .error error => (session, .error error)
  | .ok driver =>
    match server.connect driver url session with
    | (session, .error error) => (session, .error error)
    | (session, .ok notes) => (session, .ok (notes ++ [Database.openedNote driver]))

/-- The connector for the database at a URL. -/
def database (server : Server σ) (url : Text) : Connector σ where
  target := Url.redact url
  connect := server.openSession url
  execute := fun sql session =>
    let (session, answer) := server.execute sql session
    (session, answer.reply)
  close := server.close

/-! ## Without a server -/

/-- What the system says when no server answers. -/
def connectionRefused : Text := "Connection refused (os error 111)"

/-- The word that the stand-in finds fault with. -/
def misspelledWord : Text := "SELEC"

/-- A character of a word. -/
def isWordChar (c : Char) : Bool := c.isAlphanum || c == '_'

/-- Whether the word stands at the beginning of the text or after a character of another kind, with
such a character or the end of the text behind it. -/
def hasWord (word : Text) (afterWordChar : Bool) : Text → Bool
  | [] => false
  | c :: rest =>
    (!afterWordChar && word.isPrefixOf (c :: rest)
      && !(((c :: rest).drop word.length).head?.map isWordChar).getD false)
      || hasWord word (isWordChar c) rest

/-- A stand-in where there is no server. SQL is not interpreted: a statement counts as executed
unless it holds the misspelled word. No MySQL session can be opened. -/
def standIn : Server Unit where
  connect := fun driver _ _ =>
    match driver with
    | .mySql => ((), .error (.unreachable connectionRefused))
    | .sqlite => ((), .ok [])
  execute := fun sql _ =>
    if hasWord misspelledWord false sql then
      let message := "near " ++ quoted misspelledWord ++ ": syntax error"
      ((), { rows := .error (.database message (some ['1'])) })
    else ((), {})
  close := fun _ => ((), none)

end Server

/-- The connector for the database at a URL where there is no server. -/
def database (url : Text) : Connector Unit := Server.standIn.database url

end ScriptRunner

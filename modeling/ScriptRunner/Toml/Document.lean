import ScriptRunner.Toml.Moment
import ScriptRunner.Toml.Number
import ScriptRunner.Toml.Value

/-!
# Reading TOML documents

A document is read line by line: headers, and keys with values. `document?` answers with the table
of the whole document, or with nothing if the text is none.
-/

namespace ScriptRunner.Toml

/-! ## Keys -/

/-- A character of a key that needs no quotes. -/
def isBareChar (c : Char) : Bool := c.isAlphanum || c == '_' || c == '-'

/-- Read a part of a key that is written without quotes. -/
def bareKey : Reader Text
  | [] => none
  | c :: rest =>
    if isBareChar c then
      some ⟨c :: rest.takeWhile isBareChar, rest.dropWhile isBareChar,
        Nat.lt_succ_of_le (length_dropWhile_le isBareChar rest)⟩
    else none

/-- Read a part of a key and the blanks around it. -/
def keyPart : Reader Text := fun s =>
  ((lineString (skipBlanks s)).or (bareKey (skipBlanks s))).map fun r =>
    ⟨r.value, skipBlanks r.rest,
      Nat.lt_of_le_of_lt (length_skipBlanks_le r.rest)
        (Nat.lt_of_lt_of_le r.shorter (length_skipBlanks_le s))⟩

/-- Read the parts of a key, with points between them. -/
def keyParts (s : Text) : Option (Read (List Text) s) :=
  match keyPart s with
  | none => none
  | some r =>
    match hr : r.rest with
    | '.' :: rest =>
      have : rest.length < s.length := Read.length_lt_of_rest_eq_cons hr
      (keyParts rest).map fun more => (more.map (r.value :: ·)).widen (Nat.le_of_lt this)
    | _ => some (r.map ([·]))
termination_by s.length

/-- What bounds how deep values and keys may be nested. -/
def maxDepth : Nat := 80

/-- Read a key. -/
def key : Reader (List Text) := fun s =>
  (keyParts s).bind fun r => if r.value.length < maxDepth then some r else none

/-! ## Values -/

/-- A character of a word, which is a number, a date, a time or a name. -/
def isWordChar (c : Char) : Bool :=
  c.isAlphanum || c == '+' || c == '-' || c == '.' || c == '_' || c == ':'

/-- The value that a word writes. -/
def valueOfWord? (word : Text) : Option Value :=
  if word = "true".toList then some (.boolean true)
  else if word = "false".toList then some (.boolean false)
  else if isNumber word then some .number
  else if isMoment word then some .moment
  else none

/-- The text behind a time that follows a date and a blank, or the whole text if there is none. -/
def skipTime (s : Text) : Text :=
  match s with
  | ' ' :: rest =>
    if isTimeInDate (rest.takeWhile isWordChar) then rest.dropWhile isWordChar else s
  | _ => s

theorem length_skipTime_le (s : Text) : (skipTime s).length ≤ s.length := by
  unfold skipTime
  split
  · rename_i rest
    split
    · exact Nat.le_succ_of_le (length_dropWhile_le isWordChar rest)
    · exact Nat.le_refl _
  · exact Nat.le_refl _

/-- Read a word. -/
def word : Reader Value
  | [] => none
  | c :: rest =>
    if isWordChar c then
      let word := c :: rest.takeWhile isWordChar
      let behind := rest.dropWhile isWordChar
      (valueOfWord? word).map fun value =>
        ⟨value, if isDate word then skipTime behind else behind, by
          have hb : behind.length ≤ rest.length := length_dropWhile_le isWordChar rest
          have := length_skipTime_le behind
          simp only [List.length_cons]
          split <;> omega⟩
    else none

/-- Read the items of an array from behind its bracket or a comma on. A comma may stand in front of
the closing bracket. -/
def items (item : Reader Value) (s : Text) : Option (Read (List Value) s) :=
  have hs := length_skipLines_le s
  match hc : skipLines s with
  | ']' :: rest => some ⟨[], rest, by simp only [hc, List.length_cons] at hs; omega⟩
  | t =>
    match item t with
    | none => none
    | some r =>
      have hr := length_skipLines_le r.rest
      have := r.shorter
      match he : skipLines r.rest with
      | ']' :: rest =>
        some ⟨[r.value], rest, by simp only [he, hc, List.length_cons] at hr hs; omega⟩
      | ',' :: rest =>
        have : rest.length < s.length := by
          simp only [he, hc, List.length_cons] at hr hs
          omega
        (items item rest).map fun more => (more.map (r.value :: ·)).widen (Nat.le_of_lt this)
      | _ => none
termination_by s.length

/-- Read a key, an equals sign and a value, with blanks around them. -/
def pair (value : Reader Value) : Reader (List Text × Value) := fun s =>
  match key s with
  | none => none
  | some k =>
    match hk : k.rest with
    | '=' :: rest =>
      (value (skipBlanks rest)).map fun v =>
        ⟨(k.value, v.value), skipBlanks v.rest, by
          have := k.shorter
          have := v.shorter
          have := length_skipBlanks_le v.rest
          have := length_skipBlanks_le rest
          simp only [hk, List.length_cons] at *
          omega⟩
    | _ => none

/-- Read the pairs of a table in braces. There is at least one, and no comma stands in front of the
closing brace. -/
def pairs (value : Reader Value) (t : Table) (s : Text) : Option (Read Table s) :=
  match pair value s with
  | none => none
  | some r =>
    match t.insert r.value.1 r.value.2 with
    | none => none
    | some t =>
      have := r.shorter
      match hr : r.rest with
      | '}' :: rest => some ⟨t, rest, by simp only [hr, List.length_cons] at *; omega⟩
      | ',' :: rest =>
        have : rest.length < s.length := by simp only [hr, List.length_cons] at *; omega
        (pairs value t rest).map fun more => more.widen (Nat.le_of_lt this)
      | _ => none
termination_by s.length

/-- Read a table from behind its brace on. -/
def braces (value : Reader Value) : Reader Table := fun s =>
  match hs : skipBlanks s with
  | '}' :: rest =>
    some ⟨[], rest, by
      have := length_skipBlanks_le s
      simp only [hs, List.length_cons] at this
      omega⟩
  | _ => pairs value [] s

/-- Read a value in which at most `depth` brackets and braces are open at once. -/
def value : Nat → Reader Value
  | 0, s => ((string s).map (Read.map .string)).or (word s)
  | depth + 1, '[' :: rest =>
    (items (value depth) rest).map fun r => (r.map .array).widen (Nat.le_succ _)
  | depth + 1, '{' :: rest =>
    (braces (value depth) rest).map fun r => (r.map (.table .braces)).widen (Nat.le_succ _)
  | _ + 1, s => ((string s).map (Read.map .string)).or (word s)

/-! ## Lines -/

/-- A line of a document that says something. -/
inductive Line where
  | table (keys : List Text)
  | element (keys : List Text)
  | pair (keys : List Text) (value : Value)

/-- A document while it is read: its table, and the header that holds for the next line. -/
structure Draft where
  table : Table := []
  header : List Text := []

namespace Draft

/-- What a line does to a draft. -/
def add (d : Draft) : Line → Option Draft
  | .table keys => (d.table.startTable keys).map fun t => ⟨t, keys⟩
  | .element keys => (d.table.startElement keys).map fun t => ⟨t, keys⟩
  | .pair keys value => (d.table.insertBelow d.header keys value).map fun t => ⟨t, d.header⟩

end Draft

/-- Read a header in single brackets. -/
def tableHeader (s : Text) : Option (Read Line s) :=
  match s with
  | '[' :: rest =>
    match key rest with
    | none => none
    | some k =>
      match hk : k.rest with
      | ']' :: rest' =>
        some ⟨.table k.value, rest', by
          have := k.shorter
          simp only [hk, List.length_cons] at *
          omega⟩
      | _ => none
  | _ => none

/-- Read a header in double brackets. -/
def elementHeader (s : Text) : Option (Read Line s) :=
  match s with
  | '[' :: '[' :: rest =>
    match key rest with
    | none => none
    | some k =>
      match hk : k.rest with
      | ']' :: ']' :: rest' =>
        some ⟨.element k.value, rest', by
          have := k.shorter
          simp only [hk, List.length_cons] at *
          omega⟩
      | _ => none
  | _ => none

/-- Read a line up to the blanks and the comment at its end. -/
def line : Reader Line := fun s =>
  ((elementHeader s).or (tableHeader s)).or
    ((pair (value (maxDepth - 1)) s).map (Read.map fun p => .pair p.1 p.2))

/-- Read the lines of a document. -/
def lines (d : Draft) (s : Text) : Option Draft :=
  if hs : s = [] then some d
  else
    match he : endLine? s with
    | some rest =>
      have := length_lt_of_endLine? hs he
      lines d rest
    | none =>
      match line (skipBlanks s) with
      | none => none
      | some r =>
        match d.add r.value with
        | none => none
        | some d =>
          match hr : endLine? r.rest with
          | none => none
          | some rest =>
            have : rest.length < s.length := by
              have := r.shorter
              have := length_skipBlanks_le s
              by_cases h : r.rest = []
              · have : rest = [] := by simpa [h, endLine?, skipBlanks, skipComment] using hr.symm
                simp only [this, h, List.length_nil] at *
                omega
              · have := length_lt_of_endLine? h hr
                omega
            lines d rest
termination_by s.length

/-- The table of a document. A byte order mark in front of it does not count. -/
def document? (s : Text) : Option Table :=
  (lines {} (if s.head? = some '\ufeff' then s.drop 1 else s)).map Draft.table

end ScriptRunner.Toml
